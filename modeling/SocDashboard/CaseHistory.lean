/-
# The history of a case

The history of an alert is ordered by `created_at`, the `BEGIN` of a row's
transaction. The status of a note comes from its `SELECT`, and what that finds
from the classification's `COMMIT`. So the history shows every note with the
status in force exactly when the two orders agree: a note that read before the
classification committed began before it, one that read after began after
(`shows_iff`). Over a run, that is when every `COMMIT` keeps the order
(`history_iff`).

Key definitions: `inForce`, `NotesShowStatus`, `HistoryShows`, `Ordered`,
`InOrder`, `KeepsOrder`.
Key theorems: `shows_iff`, `inOrder_step`, `history_iff`.
-/
import SocDashboard.CaseNotes
import SocDashboard.Lib.Runs
import SocDashboard.Reading

namespace SocDashboard

/-- The status that a history leaves the alert in. -/
def inForce (history : List AuditEntry) : Status :=
  match (history.filter fun e => e.action ≠ .noteAdded).getLast? with
  | some e => e.toStatus
  | none => .open_

/-- **Every note shows the status in force.** -/
def NotesShowStatus (history : List AuditEntry) : Prop :=
  ∀ before e after, history = before ++ e :: after → e.action = .noteAdded →
    e.fromStatus = inForce before ∧ e.toStatus = inForce before

/-- What `GET /api/alerts/<id>/audit` answers, in whatever order rows of one time come. -/
def HistoryShows (env : Env) (alertId : ℕ) (c : CaseFile) : Prop :=
  ∀ plan, NotesShowStatus ((auditHistory plan alertId c.db).map (decryptEntry env))

/-- A note that read before the classification committed began before it, one
that read after began after. -/
def Ordered (triage note : AuditEntry) (late : Bool) : Prop :=
  if late then triage.createdAt < note.createdAt else note.createdAt < triage.createdAt

/-- Every committed note is in order with the committed classification. -/
def InOrder (c : CaseFile) : Prop :=
  ∀ row, c.triage = .committed row →
    ∀ r note late, c.note r = .committed note late → Ordered row note late

/-- A `COMMIT` of a request that is in order with what is committed. -/
def KeepsOrder (c : CaseFile) : CaseOp → Prop
  | .triage => ∀ row, c.triage = .logged row →
      ∀ r note late, c.note r = .committed note late → Ordered row note late
  | .note r => ∀ note late, c.note r = .inserted note late →
      ∀ row, c.triage = .committed row → Ordered row note late
  | _ => True

/-! ### What a step does to the order -/

section Steps

variable {alertId : ℕ} {req : ClassifyRequest} {notes : ℕ → NoteRequest} {c : CaseFile}

/-- A step of the classification does nothing or moves it; only its `COMMIT` commits it. -/
theorem triageStep_cases (alertId : ℕ) (req : ClassifyRequest) (c : CaseFile) :
    (triageStep alertId req c = c ∧ ∀ row, c.triage ≠ .logged row) ∨
      ∃ tx p, triageStep alertId req c = c.gotoTriage tx p ∧ c.triage.isCommitted = false ∧
        ∀ row, p = .committed row ↔ c.triage = .logged row := by
  fun_cases triageStep alertId req c with
  | case7 => exact Or.inl ⟨rfl, by simp [*]⟩
  | case14 => exact Or.inl ⟨rfl, by simp [*]⟩
  | case15 => exact Or.inl ⟨rfl, by simp [*]⟩
  | _ => exact Or.inr ⟨_, _, rfl, by simp [*, TriagePhase.isCommitted], by simp [*]⟩

theorem noteStep_cases (alertId : ℕ) (notes : ℕ → NoteRequest) (c : CaseFile) (r : ℕ) :
    (noteStep alertId notes c r = c ∧ ∀ row late, c.note r ≠ .inserted row late) ∨
      ∃ tx p, noteStep alertId notes c r = c.gotoNote r tx p ∧ (c.note r).isCommitted = false ∧
        ∀ row late, p = .committed row late ↔ c.note r = .inserted row late := by
  fun_cases noteStep alertId notes c r with
  | case7 => exact Or.inl ⟨rfl, by simp [*]⟩
  | case8 => exact Or.inl ⟨rfl, by simp [*]⟩
  | _ => exact Or.inr ⟨_, _, rfl, by simp [*, NotePhase.isCommitted], by simp [*]⟩

/-- A step of the classification keeps the order exactly when it is no `COMMIT`
that falls behind a note's. -/
theorem inOrder_triage (ho : InOrder c) :
    InOrder (triageStep alertId req c) ↔ KeepsOrder c .triage := by
  rcases triageStep_cases alertId req c with ⟨he, hne⟩ | ⟨tx, p, he, hnot, hp⟩
  · rw [he]
    exact ⟨fun _ row hrow => absurd hrow (hne row), fun _ => ho⟩
  · rw [he]
    exact forall_congr' fun row => imp_congr_left (hp row)

theorem inOrder_note (ho : InOrder c) (r : ℕ) :
    InOrder (noteStep alertId notes c r) ↔ KeepsOrder c (.note r) := by
  rcases noteStep_cases alertId notes c r with ⟨he, hne⟩ | ⟨tx, p, he, hnot, hp⟩
  · rw [he]
    exact ⟨fun _ note late hnote => absurd hnote (hne note late), fun _ => ho⟩
  · rw [he]
    constructor
    · intro h note late hnote row hrow
      exact h row hrow r note late ((Function.update_self ..).trans ((hp note late).mpr hnote))
    · intro h row hrow q note late hnote
      have hnote : Function.update c.note r p q = .committed note late := hnote
      by_cases hq : q = r
      · rw [hq, Function.update_self] at hnote
        exact h note late ((hp note late).mp hnote) row hrow
      · rw [Function.update_of_ne hq] at hnote
        exact ho row hrow q note late hnote

theorem inOrder_step (op : CaseOp) (ho : InOrder c) :
    InOrder (caseStep alertId req notes c op) ↔ KeepsOrder c op := by
  cases op with
  | triage => exact inOrder_triage ho
  | note r => exact inOrder_note ho r
  | abortTriage =>
    refine ⟨fun _ => trivial, fun _ => ?_⟩
    unfold caseStep
    simp only
    split_ifs
    · intro row hrow
      exact absurd hrow nofun
    · exact ho
  | abortNote r =>
    refine ⟨fun _ => trivial, fun _ => ?_⟩
    unfold caseStep
    simp only
    split_ifs
    · intro row hrow q note late hnote
      have hnote : Function.update c.note r .failed q = .committed note late := hnote
      by_cases hq : q = r
      · rw [hq, Function.update_self] at hnote
        exact absurd hnote nofun
      · rw [Function.update_of_ne hq] at hnote
        exact ho row hrow q note late hnote
    · exact ho
  | tick microseconds => exact ⟨fun _ => trivial, fun _ => ho⟩

end Steps

/-! ### What the history shows -/

theorem inForce_of_notes {history : List AuditEntry} (h : ∀ e ∈ history, e.action = .noteAdded) :
    inForce history = .open_ := by
  have hnil : history.filter (fun e => e.action ≠ .noteAdded) = [] := by
    rw [List.filter_eq_nil_iff]
    intro e he
    simp [h e he]
  rw [inForce, hnil]
  rfl

theorem inForce_of_triage {history : List AuditEntry} {row : AuditEntry} (hrow : row ∈ history)
    (hact : row.action ≠ .noteAdded) (h : ∀ e ∈ history, e.action ≠ .noteAdded → e = row) :
    inForce history = row.toStatus := by
  have hmem : row ∈ history.filter (fun e => e.action ≠ .noteAdded) := by
    rw [List.mem_filter]
    exact ⟨hrow, by simpa using hact⟩
  have hlast := List.getLast?_eq_some_getLast (List.ne_nil_of_mem hmem)
  have hget := List.getLast_mem (List.ne_nil_of_mem hmem)
  rw [List.mem_filter] at hget
  rw [inForce, hlast, h _ hget.1 (by simpa using hget.2)]

theorem inForce_map {f : AuditEntry → AuditEntry} (hact : ∀ e, (f e).action = e.action)
    (hto : ∀ e, (f e).toStatus = e.toStatus) (history : List AuditEntry) :
    inForce (history.map f) = inForce history := by
  unfold inForce
  rw [List.filter_map, List.getLast?_map]
  simp only [Function.comp_def, hact]
  cases (history.filter fun e => e.action ≠ .noteAdded).getLast? with
  | none => rfl
  | some e => exact hto e

/-- Decrypting the notes does not touch the statuses. -/
theorem notesShowStatus_map {f : AuditEntry → AuditEntry} (hact : ∀ e, (f e).action = e.action)
    (hfrom : ∀ e, (f e).fromStatus = e.fromStatus) (hto : ∀ e, (f e).toStatus = e.toStatus)
    {history : List AuditEntry} : NotesShowStatus (history.map f) ↔ NotesShowStatus history := by
  constructor
  · rintro h before e after rfl hnote
    have hshown := h (before.map f) (f e) (after.map f) (by simp) ((hact e).trans hnote)
    rwa [hfrom, hto, inForce_map hact hto] at hshown
  · intro h before e after hsplit hnote
    obtain ⟨before', rest, rfl, rfl, hrest⟩ := List.map_eq_append_iff.mp hsplit
    obtain ⟨e', after', rfl, rfl, rfl⟩ := List.map_eq_cons_iff.mp hrest
    rw [hact] at hnote
    rw [hfrom, hto, inForce_map hact hto]
    exact h before' e' after' rfl hnote

section History

variable {alertId : ℕ} {req : ClassifyRequest} {c : CaseFile}

theorem mem_auditHistory {plan : Plan} {db : Db} {e : AuditEntry} :
    e ∈ auditHistory plan alertId db ↔ e ∈ db.auditLog ∧ e.alertId = alertId := by
  rw [auditHistory, (Query.orderBy_perm ..).mem_iff, List.mem_filter, decide_eq_true_iff]

/-- What comes before an entry of the history, and after it. -/
theorem auditHistory_split {plan : Plan} {db : Db} {before after : List AuditEntry} {e : AuditEntry}
    (h : auditHistory plan alertId db = before ++ e :: after) :
    (∀ x ∈ before, Query.Before (fun e => e.createdAt) (fun e => plan.ids e.id) x e) ∧
      ∀ x ∈ after, Query.Before (fun e => e.createdAt) (fun e => plan.ids e.id) e x := by
  have hsorted := Query.orderBy_pairwise (fun e : AuditEntry => e.createdAt) (fun e => plan.ids e.id)
    (db.auditLog.filter fun e => e.alertId = alertId)
  rw [← auditHistory, h] at hsorted
  obtain ⟨-, htail, hcross⟩ := List.pairwise_append.mp hsorted
  exact ⟨fun x hx => hcross x hx e List.mem_cons_self, fun x hx => (List.pairwise_cons.mp htail).1 x hx⟩

/-- An entry that is not the classification's is a committed note's. -/
theorem CaseInv.entry (hi : CaseInv alertId req c) {plan : Plan} {e : AuditEntry}
    (he : e ∈ auditHistory plan alertId c.db) :
    (∃ late, NoteRow alertId c.triage c.db.auditSeq e late ∧ ∃ r, c.note r = .committed e late) ∨
      c.triage = .committed e := by
  rcases (hi.log e).mp (mem_auditHistory.mp he) with ⟨r, late, hr⟩ | hr
  · exact Or.inl ⟨late, (hi.note r).row e late (by rw [hr]; rfl), r, hr⟩
  · exact Or.inr hr

theorem CaseInv.triageEntry (hi : CaseInv alertId req c) {row : AuditEntry}
    (hrow : c.triage = .committed row) :
    TriageRow alertId req c.db.auditSeq row ∧ ∀ plan, row ∈ auditHistory plan alertId c.db :=
  ⟨hi.triageRow row (by rw [hrow]; rfl), fun _ => mem_auditHistory.mpr ((hi.log row).mpr (Or.inr hrow))⟩

/-- Before the classification's entry the alert is open. -/
theorem CaseInv.inForce_of_not_mem (hi : CaseInv alertId req c) {plan : Plan} {history : List AuditEntry}
    (hsub : ∀ x ∈ history, x ∈ auditHistory plan alertId c.db)
    (hnot : ∀ row, c.triage = .committed row → row ∉ history) : inForce history = .open_ := by
  refine inForce_of_notes fun x hx => ?_
  rcases hi.entry (hsub x hx) with ⟨late, hnote, -⟩ | hrow
  · exact hnote.action
  · exact absurd hx (hnot x hrow)

/-- After it the alert has the status that it gave. -/
theorem CaseInv.inForce_of_mem (hi : CaseInv alertId req c) {plan : Plan} {history : List AuditEntry}
    {row : AuditEntry} (hsub : ∀ x ∈ history, x ∈ auditHistory plan alertId c.db)
    (hrow : c.triage = .committed row) (hmem : row ∈ history) : inForce history = row.toStatus := by
  refine inForce_of_triage hmem (hi.triageEntry hrow).1.not_note fun x hx hact => ?_
  rcases hi.entry (hsub x hx) with ⟨late, hnote, -⟩ | hx
  · exact absurd hnote.action hact
  · exact TriagePhase.committed.inj (hx.symm.trans hrow)

theorem historyShows_iff (env : Env) :
    HistoryShows env alertId c ↔ ∀ plan, NotesShowStatus (auditHistory plan alertId c.db) :=
  forall_congr' fun _ =>
    notesShowStatus_map (f := decryptEntry env) (fun _ => rfl) (fun _ => rfl) fun _ => rfl

theorem shows_of_inOrder (hi : CaseInv alertId req c) (ho : InOrder c) (plan : Plan) :
    NotesShowStatus (auditHistory plan alertId c.db) := by
  intro before e after hsplit hact
  obtain ⟨hbefore, hafter⟩ := auditHistory_split hsplit
  have hsub : ∀ x ∈ before, x ∈ auditHistory plan alertId c.db := fun x hx =>
    hsplit ▸ List.mem_append_left _ hx
  have he : e ∈ auditHistory plan alertId c.db := hsplit ▸ List.mem_append_right _ List.mem_cons_self
  rcases hi.entry he with ⟨late, hnote, r, hr⟩ | hrow
  · suffices h : e.toStatus = inForce before from ⟨hnote.same.trans h, h⟩
    cases late with
    | false =>
      rw [hi.inForce_of_not_mem hsub]
      · exact hnote.seen.1
      · intro row hrow hmem
        have hlt : e.createdAt < row.createdAt := ho row hrow r e false hr
        exact absurd (hbefore row hmem).key_le (not_le.mpr hlt)
    | true =>
      obtain ⟨row, hrow⟩ := exists_of_isCommitted (hnote.seen.2 rfl)
      have hlt : row.createdAt < e.createdAt := ho row hrow r e true hr
      have hmem : row ∈ before := by
        have hin := (hi.triageEntry hrow).2 plan
        rw [hsplit, List.mem_append, List.mem_cons] at hin
        rcases hin with hin | rfl | hin
        · exact hin
        · exact absurd hlt (lt_irrefl _)
        · exact absurd (hafter row hin).key_le (not_le.mpr hlt)
      rw [hi.inForce_of_mem hsub hrow hmem, hnote.seen.1, hrow]
      rfl
  · exact absurd hact (hi.triageEntry hrow).1.not_note

/-- Entries of one time come in any order; the history shows the statuses in every
order only if the note and the classification are in order. -/
theorem inOrder_of_shows (hi : CaseInv alertId req c)
    (h : ∀ plan, NotesShowStatus (auditHistory plan alertId c.db)) : InOrder c := by
  intro row hrow r note late hnote
  have hn := (hi.note r).row note late (by rw [hnote]; rfl)
  have hne : note.id ≠ row.id := hn.id_ne row (by rw [hrow]; rfl)
  obtain ⟨htriage, htriagein⟩ := hi.triageEntry hrow
  have hin : ∀ plan, note ∈ auditHistory plan alertId c.db := fun plan =>
    mem_auditHistory.mpr ((hi.log note).mpr (Or.inl ⟨r, late, hnote⟩))
  have hclosed : row.toStatus ≠ .open_ := by
    rw [htriage.toStatus]
    exact actionToStatus_ne_open _
  have hseen := hn.seen.1
  rw [hrow] at hseen
  cases late with
  | true =>
    show row.createdAt < note.createdAt
    by_contra hlt
    -- of entries of one time the note comes first
    let plan : Plan := { asStored with ids := fun i => if i = row.id then 1 else 0 }
    obtain ⟨before, after, hsplit⟩ := List.append_of_mem (hin plan)
    obtain ⟨hbefore, -⟩ := auditHistory_split hsplit
    have hfirst : row ∉ before := by
      intro hmem
      rcases hbefore row hmem with hlt' | ⟨-, hrank⟩
      · exact hlt hlt'
      · simp [plan, hne] at hrank
    have hopen : inForce before = .open_ := by
      refine hi.inForce_of_not_mem (fun x hx => hsplit ▸ List.mem_append_left _ hx) ?_
      intro row' hrow'
      obtain rfl := TriagePhase.committed.inj (hrow.symm.trans hrow')
      exact hfirst
    exact hclosed (hseen.symm.trans ((h plan before note after hsplit hn.action).2.trans hopen))
  | false =>
    show note.createdAt < row.createdAt
    by_contra hlt
    -- of entries of one time the classification's comes first
    let plan : Plan := { asStored with ids := fun i => if i = row.id then 0 else 1 }
    obtain ⟨before, after, hsplit⟩ := List.append_of_mem (hin plan)
    obtain ⟨-, hafter⟩ := auditHistory_split hsplit
    have hmem : row ∈ before := by
      have hmem := htriagein plan
      rw [hsplit, List.mem_append, List.mem_cons] at hmem
      rcases hmem with hmem | he | hmem
      · exact hmem
      · exact absurd (congrArg AuditEntry.id he.symm) hne
      · rcases hafter row hmem with hlt' | ⟨-, hrank⟩
        · exact absurd hlt' hlt
        · simp [plan, hne] at hrank
    have hforce := hi.inForce_of_mem (fun x hx => hsplit ▸ List.mem_append_left _ hx) hrow hmem
    exact hclosed (hforce.symm.trans ((h plan before note after hsplit hn.action).2.symm.trans hseen))

/-- **The history shows the statuses exactly when the transactions are in order.** -/
theorem shows_iff (hi : CaseInv alertId req c) (env : Env) : HistoryShows env alertId c ↔ InOrder c :=
  (historyShows_iff env).trans ⟨inOrder_of_shows hi, shows_of_inOrder hi⟩

end History

/-! ### Runs -/

/-- An open alert without a history. -/
structure FreshAlert (db : Db) (alertId : ℕ) : Prop where
  found : ∃ alert, db.alert? alertId = some alert ∧ alert.status = .open_
  noHistory : ∀ e ∈ db.auditLog, e.alertId ≠ alertId

section Runs

variable {alertId : ℕ} {db : Db}

theorem inv_init (req : ClassifyRequest) (h : FreshAlert db alertId) (clock : Time) :
    CaseInv alertId req (CaseFile.init db clock) where
  status := h.found
  pending := rfl
  triageRow := nofun
  note := fun _ => ⟨rfl, nofun, nofun⟩
  log := by
    intro e
    constructor
    · rintro ⟨he, halert⟩
      exact absurd halert (h.noHistory e he)
    · rintro (⟨r, late, hr⟩ | hrow)
      · exact absurd hr nofun
      · exact absurd hrow nofun

/-- **Every note shows the status in force in every state of a run, exactly when
every `COMMIT` of the run keeps the order.** -/
theorem history_iff (env : Env) (req : ClassifyRequest) (notes : ℕ → NoteRequest)
    (h : FreshAlert db alertId) (clock : Time) (ops : List CaseOp) :
    Runs.Always (caseStep alertId req notes) (HistoryShows env alertId) (CaseFile.init db clock) ops ↔
      Runs.EachStep (caseStep alertId req notes) KeepsOrder (CaseFile.init db clock) ops := by
  refine Runs.always_iff_eachStep (caseStep alertId req notes) inv_caseStep ?_ ops _
    (inv_init req h clock) ?_
  · intro c op hi hshows
    rw [shows_iff (inv_caseStep c op hi) env]
    exact inOrder_step op ((shows_iff hi env).mp hshows)
  · rw [shows_iff (inv_init req h clock) env]
    exact nofun

end Runs

section Example

/-- The second analyst writes a note. -/
def oneNote : ℕ → NoteRequest := fun _ => ⟨⟨2, "bjones", .analyst⟩, "checking with the owner"⟩

theorem freshAlert_oneOpenAlert : FreshAlert oneOpenAlert 1 := ⟨⟨openAlert, rfl, rfl⟩, by decide⟩

/-- The note first, then the classification. -/
theorem history_noteFirst :
    Runs.Always (caseStep 1 (twoRequests 0) oneNote) (HistoryShows exampleEnv 1)
      (CaseFile.init oneOpenAlert 60000000)
      [.note 0, .note 0, .note 0, .note 0, .tick 1, .triage, .triage, .triage, .triage, .triage,
        .triage] := by
  refine (history_iff exampleEnv (twoRequests 0) oneNote freshAlert_oneOpenAlert 60000000 _).mpr ?_
  refine ⟨?_, ?_, ?_, ?_, trivial, ?_, ?_, ?_, ?_, ?_, ?_, trivial⟩
  · intro note late hnote
    cases hnote
  · intro note late hnote
    cases hnote
  · intro note late hnote
    cases hnote
  · intro note late _ row hrow
    cases hrow
  · intro row hrow
    cases hrow
  · intro row hrow
    cases hrow
  · intro row hrow
    cases hrow
  · intro row hrow
    cases hrow
  · intro row hrow
    cases hrow
  · intro row hrow r note late hnote
    obtain rfl := TriagePhase.logged.inj hrow
    cases r with
    | zero =>
      obtain ⟨rfl, rfl⟩ := NotePhase.committed.inj hnote
      show (60000000 : Time) < 60000001
      decide
    | succ r => cases hnote

/-- The classification begins; before it reads, a whole note request passes. The
note is later in the history and says that the alert is open. -/
theorem note_shows_open :
    ¬Runs.Always (caseStep 1 (twoRequests 0) oneNote) (HistoryShows exampleEnv 1)
      (CaseFile.init oneOpenAlert 60000000)
      [.triage, .tick 1, .note 0, .note 0, .note 0, .note 0, .triage, .triage, .triage, .triage,
        .triage] := by
  intro h
  have hend := (Runs.always_iff _ _ _).mp h _ (List.prefix_refl _)
  have hi := Runs.run_inv (caseStep 1 (twoRequests 0) oneNote) inv_caseStep
    [.triage, .tick 1, .note 0, .note 0, .note 0, .note 0, .triage, .triage, .triage, .triage, .triage] _
    (inv_init (twoRequests 0) freshAlert_oneOpenAlert 60000000)
  have hordered : (60000001 : Time) < 60000000 := (shows_iff hi exampleEnv).mp hend _ rfl 0 _ _ rfl
  exact absurd hordered (by decide)

end Example

end SocDashboard
