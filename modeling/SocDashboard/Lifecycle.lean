/-
# The life of an alert

What the store is for, seen from one id: at first nobody has it, then it is a
dossier (the alert with its actions and its audit entries) that grows, and
after a purge it is gone for good. `Life` has these three stages, ordered by
what may come later; a dossier grows by further rows at the end, its alert's
values never change, and its status and assignee change together, once, when an
open alert is triaged.

The tables refine this: every transaction moves every id up (`life_step`), so
of any two moments of a run the later has the later stage (`life_run`). A
dossier goes only to a purge whose cutoff is after its creation, and then
nothing of it is left.

Key definitions: `Dossier`, `Dossier.Grows`, `Life`, `Db.life`.
Key theorems: `life_step`, `life_run`.
-/
import Mathlib.Order.Defs.PartialOrder
import SocDashboard.SystemRuns

namespace SocDashboard

/-- What the store has about one alert. -/
structure Dossier where
  alert : Alert
  actions : List AnalystAction
  entries : List AuditEntry
  deriving DecidableEq, Repr

/-- The alert later on: as it was, or triaged since. -/
def Alert.Later (row row' : Alert) : Prop :=
  row' = row ∨ row.status = .open_ ∧ ∃ action analystName, row' = Db.assign (actionToStatus action) analystName row

/-- The dossier later on. -/
structure Dossier.Grows (d d' : Dossier) : Prop where
  alert : d.alert.Later d'.alert
  actions : d.actions <+: d'.actions
  entries : d.entries <+: d'.entries

/-- The stages of an id. -/
inductive Life
  | unborn
  | kept (d : Dossier)
  | gone
  deriving DecidableEq, Repr

/-- What may come later. -/
def Life.le : Life → Life → Prop
  | .unborn, _ => True
  | .kept d, .kept d' => d.Grows d'
  | .kept _, .gone => True
  | .gone, .gone => True
  | _, _ => False

theorem Alert.Later.refl (row : Alert) : row.Later row := .inl rfl

theorem Alert.Later.trans {a b c : Alert} (h : a.Later b) (h' : b.Later c) : a.Later c := by
  rcases h with rfl | ⟨hopen, action, name, rfl⟩
  · exact h'
  · rcases h' with rfl | ⟨hopen', -⟩
    · exact .inr ⟨hopen, action, name, rfl⟩
    · exact absurd hopen' (actionToStatus_ne_open action)

theorem Dossier.Grows.refl (d : Dossier) : d.Grows d :=
  ⟨.refl _, List.prefix_refl _, List.prefix_refl _⟩

instance : Preorder Life where
  le := Life.le
  le_refl x := by
    cases x with
    | unborn => trivial
    | kept d => exact .refl d
    | gone => trivial
  le_trans x y z hxy hyz := by
    cases x <;> cases y <;> cases z <;> first | trivial | exact hxy.elim | exact hyz.elim | skip
    exact ⟨hxy.alert.trans hyz.alert, hxy.actions.trans hyz.actions, hxy.entries.trans hyz.entries⟩

theorem Life.unborn_le (x : Life) : Life.unborn ≤ x := trivial

theorem Life.le_gone (x : Life) : x ≤ Life.gone := by
  cases x <;> trivial

/-! ### The stages in the tables -/

namespace Db

/-- The audit entries of an alert, in the order of the table. -/
def entriesOf (db : Db) (id : ℕ) : List AuditEntry := db.auditLog.filter fun e => e.alertId = id

/-- The stage of an id. -/
def life (db : Db) (id : ℕ) : Life :=
  match db.alert? id with
  | some alert => .kept ⟨alert, db.actionsOf id, db.entriesOf id⟩
  | none => if id < db.alertsSeq then .gone else .unborn

end Db

section Steps

variable {db db' : Db} {id : ℕ}

theorem life_of_some {alert : Alert} (h : db.alert? id = some alert) :
    db.life id = .kept ⟨alert, db.actionsOf id, db.entriesOf id⟩ := by
  rw [Db.life, h]

theorem life_of_none (h : db.alert? id = none) : db.life id = if id < db.alertsSeq then .gone else .unborn := by
  rw [Db.life, h]

/-- The rows of the id are the same. -/
theorem life_le_of_same (hal : db'.alert? id = db.alert? id) (hactions : db'.actionsOf id = db.actionsOf id)
    (hentries : db'.entriesOf id = db.entriesOf id) (hseq : db.alertsSeq ≤ db'.alertsSeq) :
    db.life id ≤ db'.life id := by
  cases h : db.alert? id with
  | some alert =>
    rw [life_of_some h, life_of_some (hal.trans h), hactions, hentries]
  | none =>
    rw [life_of_none h, life_of_none (hal.trans h)]
    by_cases hid : id < db.alertsSeq
    · rw [if_pos hid, if_pos (by omega)]
    · rw [if_neg hid]
      exact Life.unborn_le _

theorem life_same (h : SameRows db db') (id : ℕ) : db.life id ≤ db'.life id := by
  apply life_le_of_same
  · rw [Db.alert?, Db.alert?, h.alertRows]
  · rw [Db.actionsOf, Db.actionsOf, h.actionRows]
  · rw [Db.entriesOf, Db.entriesOf, h.auditRows]
  · exact h.alerts

/-- A transaction moves an id up, and removes an alert only when it may cut it off. -/
structure Ages (C : Time → Prop) (db db' : Db) (id : ℕ) : Prop where
  le : db.life id ≤ db'.life id
  cut : ∀ d, db.life id = .kept d → db'.life id = .gone → ∃ cutoff, C cutoff ∧ d.alert.createdAt < cutoff

variable {C : Time → Prop}

/-- An alert that is still there was not cut off. -/
theorem Ages.of_isSome (hle : db.life id ≤ db'.life id) (h : db.alert? id ≠ none → db'.alert? id ≠ none) :
    Ages C db db' id := by
  refine ⟨hle, fun d hd hgone => ?_⟩
  have hsome : db.alert? id ≠ none := by
    intro hnone
    rw [life_of_none hnone] at hd
    split_ifs at hd
  obtain ⟨alert, halert⟩ := Option.ne_none_iff_exists'.mp (h hsome)
  rw [life_of_some halert] at hgone
  cases hgone

theorem Ages.same (h : Ages C db db' id) {db'' : Db} (hs : SameRows db' db'') : Ages C db db'' id := by
  refine ⟨le_trans h.le (life_same hs id), fun d hd hgone => h.cut d hd ?_⟩
  have hal : db''.alert? id = db'.alert? id := by rw [Db.alert?, Db.alert?, hs.alertRows]
  have hle := h.le
  rw [hd] at hle
  cases hlife : db'.life id with
  | gone => rfl
  | unborn =>
    rw [hlife] at hle
    exact hle.elim
  | kept d' =>
    have hsome : db'.alert? id ≠ none := by
      intro hnone
      rw [life_of_none hnone] at hlife
      split_ifs at hlife
    obtain ⟨alert, halert⟩ := Option.ne_none_iff_exists'.mp hsome
    rw [life_of_some (hal.trans halert)] at hgone
    cases hgone

/-- A new alert takes an id that nobody had. -/
theorem ages_withAlert (db : Db) (now : Time) (v : AlertValues) (id : ℕ) : Ages C db (db.withAlert now v) id := by
  have hfind := alert?_withAlert db now v id
  cases h : db.alert? id with
  | some alert =>
    rw [h, Option.some_or] at hfind
    apply Ages.of_isSome
    · exact life_le_of_same (hfind.trans h.symm) rfl rfl (Nat.le_succ _)
    · exact fun _ => by simp [hfind]
  | none =>
    apply Ages.of_isSome _ (fun hne => absurd h hne)
    rw [life_of_none h]
    by_cases hid : id < db.alertsSeq
    · have hnew : db.alertsSeq ≠ id := by omega
      rw [h, Option.none_or, if_neg hnew] at hfind
      have hlt : id < (db.withAlert now v).alertsSeq := Nat.lt_succ_of_lt hid
      rw [if_pos hid, life_of_none hfind, if_pos hlt]
    · rw [if_neg hid]
      exact Life.unborn_le _

/-- An alert that was triaged has the new rows at the end. -/
theorem ages_triaged {now : Time} {user : User} {alertId : ℕ} {analystName : String} {action : Action} {seconds : ℤ}
    {alert : Alert} (hal : db.alert? alertId = some alert) (hopen : alert.status = .open_) (id : ℕ) :
    Ages C db (db.triaged now user alertId analystName action seconds) id := by
  have hself : (db.triaged now user alertId analystName action seconds).alert? alertId =
      some (Db.assign (actionToStatus action) analystName alert) := alert?_triaged hal
  by_cases hid : id = alertId
  · subst hid
    apply Ages.of_isSome _ (fun _ => by simp [hself])
    rw [life_of_some hal, life_of_some hself]
    refine ⟨.inr ⟨hopen, action, analystName, rfl⟩, ?_, ?_⟩
    · simp only [Db.actionsOf, Db.triaged, Db.withAudit, Db.withAction, Db.assigned, List.filter_append]
      exact List.prefix_append _ _
    · simp only [Db.entriesOf, Db.triaged, Db.withAudit, Db.withAction, Db.assigned, List.filter_append]
      exact List.prefix_append _ _
  · have hother : (db.triaged now user alertId analystName action seconds).alert? id = db.alert? id :=
      alert?_triaged_of_ne hid
    apply Ages.of_isSome
    · apply life_le_of_same hother
      · simp [Db.actionsOf, Db.triaged, Db.withAudit, Db.withAction, Db.assigned, List.filter_append, Ne.symm hid]
      · simp [Db.entriesOf, Db.triaged, Db.withAudit, Db.withAction, Db.assigned, List.filter_append, Ne.symm hid]
      · exact le_rfl
    · exact fun hne => by rwa [hother]

/-- A note is a new entry at the end. -/
theorem ages_noted {now : Time} {user : User} {alertId : ℕ} {status : Status} {note : String} (id : ℕ) :
    Ages C db (db.noted now user alertId status note) id := by
  have hal : (db.noted now user alertId status note).alert? id = db.alert? id := rfl
  apply Ages.of_isSome _ (fun hne => by rwa [hal])
  cases h : db.alert? id with
  | none =>
    rw [life_of_none h, life_of_none (hal.trans h)]
    rfl
  | some alert =>
    rw [life_of_some h, life_of_some (hal.trans h)]
    refine ⟨.refl alert, List.prefix_refl _, ?_⟩
    simp only [Db.entriesOf, Db.noted, Db.withAudit, List.filter_append]
    exact List.prefix_append _ _

/-- A purge keeps a dossier whole or takes it away. -/
theorem ages_purged (hi : StoreInv db) {cutoff : Time} (hc : C cutoff) (id : ℕ) : Ages C db (db.purged cutoff) id := by
  have hfind : (db.purged cutoff).alert? id = (db.alert? id).filter fun a => !(a.createdAt < cutoff) :=
    hi.distinct.lookup_filter _ id
  cases h : db.alert? id with
  | none =>
    rw [h] at hfind
    refine Ages.of_isSome ?_ fun hne => absurd h hne
    rw [life_of_none h, life_of_none hfind]
    rfl
  | some alert =>
    have hmem := Table.lookup_mem h
    have hid : alert.id = id := Table.lookup_key h
    by_cases hold : alert.createdAt < cutoff
    · -- the purge takes it
      rw [h, Option.filter_some, if_neg (by simp [hold])] at hfind
      have hgone : (db.purged cutoff).life id = .gone := by
        rw [life_of_none hfind, if_pos (hid ▸ hi.fresh alert hmem)]
      refine ⟨hgone ▸ Life.le_gone _, fun d hd _ => ⟨cutoff, hc, ?_⟩⟩
      rw [life_of_some h] at hd
      cases hd
      exact hold
    · rw [h, Option.filter_some, if_pos (by simp [hold])] at hfind
      have hex : db.expired cutoff id = false := by
        refine List.any_eq_false.mpr fun b hb => ?_
        simp only [Bool.and_eq_true, decide_eq_true_eq, not_and]
        intro hbid
        rwa [hi.distinct.eq hb hmem (hbid.trans hid.symm)]
      refine Ages.of_isSome (life_le_of_same (hfind.trans h.symm) ?_ ?_ le_rfl) fun _ => by simp [hfind]
      · simp only [Db.actionsOf, Db.purged, List.filter_filter]
        refine List.filter_congr fun x _ => ?_
        by_cases hx : x.alertId = id <;> simp [hx, hex]
      · simp only [Db.entriesOf, Db.purged, hi.fk, if_true, List.filter_filter]
        refine List.filter_congr fun e _ => ?_
        by_cases hx : e.alertId = id <;> simp [hx, hex]

/-- **Every transaction moves every id up.** -/
theorem life_step {V : AlertValues → Prop} {N : String → Prop} (hi : StoreInv db) (h : StoreStep V N C db db')
    (id : ℕ) : Ages C db db' id := by
  cases h with
  | unchanged h => exact (Ages.of_isSome le_rfl fun hne => hne).same h
  | ingested now v _ h => exact (ages_withAlert db now v id).same h
  | triaged now user alertId analystName action seconds alert hal hopen _ h => exact (ages_triaged hal hopen id).same h
  | noted now user alertId note alert _ _ h => exact (ages_noted id).same h
  | purged cutoff hc h => exact (ages_purged hi hc id).same h
  | account username passwordHash role h =>
    have hsame : Ages C db (db.withUser username passwordHash role) id :=
      Ages.of_isSome (life_le_of_same rfl rfl rfl le_rfl) fun hne => hne
    exact hsame.same h

/-- Nothing refers to an alert that is not there. -/
theorem no_rows_of_not_kept (hi : StoreInv db) (h : ∀ d, db.life id ≠ .kept d) :
    db.actionsOf id = [] ∧ db.entriesOf id = [] := by
  have hnone : id ∉ db.alertIds := by
    intro hid
    obtain ⟨alert, hmem, rfl⟩ := List.mem_map.mp hid
    exact h _ (life_of_some (hi.distinct.lookup_mem hmem))
  constructor
  · refine List.filter_eq_nil_iff.mpr fun x hx => ?_
    have hne : x.alertId ≠ id := fun he => hnone (he ▸ hi.actions x hx)
    simp [hne]
  · refine List.filter_eq_nil_iff.mpr fun e he => ?_
    have hne : e.alertId ≠ id := fun heq => hnone (heq ▸ hi.audit e he)
    simp [hne]

theorem later_createdAt {row row' : Alert} (h : row.Later row') : row'.createdAt = row.createdAt := by
  rcases h with rfl | ⟨-, action, analystName, rfl⟩ <;> rfl

end Steps

/-! ### Runs -/

section Runs

variable (site : Site) (env : Env) (svc : Service)

/-- An operation of the list may cut off what was created at `t`. -/
def CutOff (ops : List SystemOp) (t : Time) : Prop := ∃ op ∈ ops, ∃ cutoff, op.Purges cutoff ∧ t < cutoff

/-- **A run moves every id up**, and a dossier that goes was cut off by a purge of the run. -/
theorem ages_run : ∀ (ops : List SystemOp) (w : World) (id : ℕ), StoreInv w.db →
    w.db.life id ≤ (Runs.run (systemStep site env svc) w ops).db.life id ∧
      ∀ d, w.db.life id = .kept d → (Runs.run (systemStep site env svc) w ops).db.life id = .gone →
        CutOff ops d.alert.createdAt
  | [], w, id, _ => by
    refine ⟨le_rfl, fun d hd hgone => ?_⟩
    rw [Runs.run_nil, hd] at hgone
    cases hgone
  | op :: ops, w, id, hi => by
    have hdoes := systemStep_does site env svc w op
    have hages := life_step hi hdoes id
    obtain ⟨hle, hcut⟩ := ages_run ops (systemStep site env svc w op) id (hi.step hdoes)
    rw [Runs.run_cons]
    refine ⟨le_trans hages.le hle, fun d hd hgone => ?_⟩
    have hfirst := hages.le
    rw [hd] at hfirst
    cases hlife : (systemStep site env svc w op).db.life id with
    | unborn =>
      rw [hlife] at hfirst
      exact hfirst.elim
    | gone =>
      obtain ⟨cutoff, hc, hlt⟩ := hages.cut d hd hlife
      exact ⟨op, List.mem_cons_self, cutoff, hc, hlt⟩
    | kept d' =>
      rw [hlife] at hfirst
      obtain ⟨x, hx, cutoff, hc, hlt⟩ := hcut d' hlife hgone
      have hgrows : d.Grows d' := hfirst
      rw [later_createdAt hgrows.alert] at hlt
      exact ⟨x, List.mem_cons_of_mem op hx, cutoff, hc, hlt⟩

/-- **The life of every alert.** Between any two moments of a run from freshly created
tables, an id moves up only: a dossier keeps its alert's values and all its
rows, in order; a dossier that is gone was cut off in between by a purge later
than its creation; and about an id that has no dossier there is no action and
no audit entry. -/
theorem life_run (w : World) (ops ops' : List SystemOp) (id : ℕ) :
    let db := (Runs.run (systemStep site env svc) (w.setDb (applySchema none)) ops).db
    let db' := (Runs.run (systemStep site env svc) (w.setDb (applySchema none)) (ops ++ ops')).db
    db.life id ≤ db'.life id ∧
      (∀ d, db.life id = .kept d → db'.life id = .gone → CutOff ops' d.alert.createdAt) ∧
      ((∀ d, db.life id ≠ .kept d) → db.actionsOf id = [] ∧ db.entriesOf id = []) := by
  have hi := storeInv_systemRun site env svc w ops
  rw [Runs.run_append]
  obtain ⟨hle, hcut⟩ := ages_run site env svc ops' _ id hi
  exact ⟨hle, hcut, no_rows_of_not_kept hi⟩

end Runs

end SocDashboard
