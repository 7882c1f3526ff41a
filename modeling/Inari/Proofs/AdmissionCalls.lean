import Inari.Proofs.AdmissionEffects

/-!
# Steps of an admission call

A call of `_accept` or `_reconcile` keeps what its position promises about the database.
-/

namespace Inari.Agent

open Lib

lemma SpoolWrite.log_subset {F : PrintJobRow → Prop} {db db' : Db} (h : SpoolWrite F db db') :
    db.journal.log ⊆ db'.journal.log := by
  have same : db'.events = db.events → db.journal.log ⊆ db'.journal.log := by
    intro he
    rw [Db.journal, Db.journal, he]
    exact List.Subset.refl _
  have longer : ∀ e, db'.events.rows = db.events.rows ++ [e] →
      db.journal.log ⊆ db'.journal.log := by
    intro e he
    simp only [Db.journal, he, List.map_append]
    exact List.subset_append_left _ _
  cases h with
  | other _ _ _ hevents | stage _ _ _ _ _ _ _ _ hevents | hold _ _ _ _ _ _ _ _ _ _ hevents
  | release _ _ _ _ _ _ hevents | abort _ _ _ _ _ _ _ hevents => exact same hevents
  | publish _ _ _ _ _ _ _ _ _ _ hevents | fail _ _ _ _ _ _ hevents => exact longer _ hevents

lemma SpoolWrites.log_subset {F : PrintJobRow → Prop} {db db' : Db} (h : SpoolWrites F db db') :
    db.journal.log ⊆ db'.journal.log := by
  induction h with
  | refl => exact List.Subset.refl _
  | tail _ hw ih => exact List.Subset.trans ih hw.log_subset

namespace DurableSpoolAdmissionStore

open SpoolAdmissionLedger

/-- The transactions inside the `try` block, each with the end of the step that commits it. -/
inductive StageTx (inp : StepInput) (db : Db) (plan : AdmissionPlan) (now : Time) :
    Db → StageResult → Prop
  | dataKey {admissionKeys stage} :
      StageTx inp db plan now { db with admissionKeys := admissionKeys } (.next stage)
  | recordStaged {artifacts stage} :
      StageTx inp db plan now { db with artifacts := artifacts } (.next stage)
  | finalize {t a db'} (hok : finalize inp.env db plan t = .ok (db', a)) :
      StageTx inp db plan now db' (.accepted a)
  | removeMissing {storageRef db'} (hok : removeMissingArtifact db plan storageRef now = .ok db') :
      StageTx inp db plan now db' .removed
  | abort {code t e db'} (hok : abortPreaccept db plan.admissionId code t = .ok db') :
      StageTx inp db plan now db' (.failed e)
  | release {e db'} (hok : releaseReservation db plan.reservationId now = .ok db') :
      StageTx inp db plan now db' (.failed e)

inductive Stages (inp : StepInput) (db : Db) (plan : AdmissionPlan) (now : Time) :
    Db × Except SpoolError StageResult → Prop
  | reads {stage} : Stages inp db plan now (db, .ok (.next stage))
  | raises {e} : Stages inp db plan now (db, .error e)
  | fails {e} : Stages inp db plan now (db, .ok (.failed e))
  | commits {db' result} (htx : StageTx inp db plan now db' result) :
      Stages inp db plan now (db', .ok result)
  | uncertain {db' result} (htx : StageTx inp db plan now db' result) :
      Stages inp db plan now (db', .error .databaseCommitUncertain)

inductive CallTx (inp : StepInput) (db : Db) : Call → Db → Prop
  | prepare {m now prepared db'} (hok : prepare inp.env.policy inp.env.owner db m now inp.ids
      inp.graphOk = .ok (db', prepared)) : CallTx inp db (.acceptLoop m now) db'
  | accepting {m now plan stage db' result} (htx : StageTx inp db plan now db' result) :
      CallTx inp db (.accepting m now plan stage) db'
  | release {now row todo db'} (hok : releaseAdmissionReservations db row.id now = .ok db') :
      CallTx inp db (.reconcileNext now (row :: todo)) db'
  | reconciling {now todo plan stage db' result} (htx : StageTx inp db plan now db' result) :
      CallTx inp db (.reconciling now todo plan stage) db'
  | abort {now todo x code db'} (hok : abortPreaccept db x code now = .ok db') :
      CallTx inp db (.reconcileAbort now todo x code) db'
  | fail {now todo job artifact db'}
      (hok : failAcceptedJobWithoutContent db job artifact now = .ok db') :
      CallTx inp db (.failJob now todo job artifact) db'

inductive CallSteps (inp : StepInput) (db : Db) : Call → Next → Prop
  | raises {call e} : CallSteps inp db call (db, .inr (.raised e))
  /-- The transaction is committed, and the call ends with an exception. -/
  | lost {call e db'} (htx : CallTx inp db call db') :
      CallSteps inp db call (db', .inr (.raised e))
  | replays {m a} (hreplay : replay db m = .ok (some a)) :
      CallSteps inp db (.accept m) (db, .inr (.accepted a))
  | begins {m} : CallSteps inp db (.accept m) (db, .inl (.acceptLoop m inp.clock))
  | answers {m now a db'} (hok : prepare inp.env.policy inp.env.owner db m now inp.ids
      inp.graphOk = .ok (db', .accepted a)) :
      CallSteps inp db (.acceptLoop m now) (db', .inr (.accepted a))
  | prepares {m now plan db'} (hok : prepare inp.env.policy inp.env.owner db m now inp.ids
      inp.graphOk = .ok (db', .plan plan)) :
      CallSteps inp db (.acceptLoop m now) (db', .inl (.accepting m now plan .resumePromoted))
  | moves {m now plan stage stage'} :
      CallSteps inp db (.accepting m now plan stage) (db, .inl (.accepting m now plan stage'))
  | restarts {m now plan stage} :
      CallSteps inp db (.accepting m now plan stage) (db, .inl (.acceptLoop m now))
  | writes {m now plan stage stage' db'} (htx : StageTx inp db plan now db' (.next stage')) :
      CallSteps inp db (.accepting m now plan stage) (db', .inl (.accepting m now plan stage'))
  | accepts {m now plan stage a db'} (htx : StageTx inp db plan now db' (.accepted a)) :
      CallSteps inp db (.accepting m now plan stage) (db', .inr (.accepted a))
  | removes {m now plan stage db'} (htx : StageTx inp db plan now db' .removed) :
      CallSteps inp db (.accepting m now plan stage) (db', .inl (.acceptLoop m now))
  | reconciles :
      CallSteps inp db .reconcile (db, .inl (.reconcileNext inp.clock (stagingAdmissions db)))
  | admissionsDone {now} : CallSteps inp db (.reconcileNext now []) (db, .inl (.reconcileJobs now))
  | skips {now row todo} :
      CallSteps inp db (.reconcileNext now (row :: todo)) (db, .inl (.reconcileNext now todo))
  | gives {now row todo code} : CallSteps inp db (.reconcileNext now (row :: todo))
      (db, .inl (.reconcileAbort now todo row.id code))
  | releases {now row todo db'} (hok : releaseAdmissionReservations db row.id now = .ok db') :
      CallSteps inp db (.reconcileNext now (row :: todo)) (db', .inl (.reconcileNext now todo))
  | plans {now row todo artifact plan stage} (hplan : planFromRows db row artifact = .ok plan) :
      CallSteps inp db (.reconcileNext now (row :: todo)) (db, .inl (.reconciling now todo plan stage))
  | planMoves {now todo plan stage stage'} : CallSteps inp db (.reconciling now todo plan stage)
      (db, .inl (.reconciling now todo plan stage'))
  | planSkips {now todo plan stage} :
      CallSteps inp db (.reconciling now todo plan stage) (db, .inl (.reconcileNext now todo))
  | planGives {now todo plan stage code} : CallSteps inp db (.reconciling now todo plan stage)
      (db, .inl (.reconcileAbort now todo plan.admissionId code))
  | planWrites {now todo plan stage stage' db'} (htx : StageTx inp db plan now db' (.next stage')) :
      CallSteps inp db (.reconciling now todo plan stage)
        (db', .inl (.reconciling now todo plan stage'))
  | planDone {now todo plan stage db' result} (htx : StageTx inp db plan now db' result) :
      CallSteps inp db (.reconciling now todo plan stage) (db', .inl (.reconcileNext now todo))
  | aborts {now todo x code db'} (hok : abortPreaccept db x code now = .ok db') :
      CallSteps inp db (.reconcileAbort now todo x code) (db', .inl (.reconcileNext now todo))
  | readsJobs {now} : CallSteps inp db (.reconcileJobs now)
      (db, .inl (.reconcileJob now (db.jobs.select (fun r => r.state == .accepted))))
  | jobsDone {now} : CallSteps inp db (.reconcileJob now []) (db, .inr .reconciled)
  | keepsJob {now job todo} :
      CallSteps inp db (.reconcileJob now (job :: todo)) (db, .inl (.reconcileJob now todo))
  | misses {now job todo artifact} :
      CallSteps inp db (.reconcileJob now (job :: todo)) (db, .inl (.failJob now todo job artifact))
  | fails {now todo job artifact db'}
      (hok : failAcceptedJobWithoutContent db job artifact now = .ok db') :
      CallSteps inp db (.failJob now todo job artifact) (db', .inl (.reconcileJob now todo))

variable {F : PrintJobRow → Prop} {db db' : Db} {now : Time} {inp : StepInput} {α : Type}
  {commit : Commit} {plan : AdmissionPlan} {stage : Stage} {todo : List AdmissionRow} {x : String}
  {m : AdmissionManifest} {call : Call} {next : Call ⊕ Outcome}

/-- An uncertain commit was written or not; the caller cannot tell. -/
lemma transact_cases (commit : Commit) (db : Db) (result : Except SpoolError (Db × α)) :
    (∃ e, transact commit db result = (db, .error e) ∧
        (result = .error e ∨ e = .databaseCommitUncertain)) ∨
      ∃ db' a, result = .ok (db', a) ∧ (transact commit db result = (db', .ok a) ∨
        transact commit db result = (db', .error .databaseCommitUncertain)) := by
  unfold transact
  split
  · exact .inl ⟨_, rfl, .inl rfl⟩
  · split
    · exact .inr ⟨_, _, rfl, .inl rfl⟩
    · rename_i applied
      cases applied
      · exact .inl ⟨_, rfl, .inr rfl⟩
      · exact .inr ⟨_, _, rfl, .inr rfl⟩

lemma Stages.of_transact {result : Except SpoolError (Db × α)} {f : α → StageResult}
    (hresult : ∀ db1 a, result = .ok (db1, a) → StageTx inp db plan now db1 (f a)) :
    Stages inp db plan now (continueWith f (transact commit db result)) := by
  obtain ⟨e, he, -⟩ | ⟨db1, a, hok, he | he⟩ := transact_cases commit db result
  all_goals rw [he]
  · exact .raises
  · exact .commits (hresult _ _ hok)
  · exact .uncertain (hresult _ _ hok)

lemma Stages.of_read {result : Except SpoolError α} {f : α → StageResult}
    (hnext : ∀ a, ∃ s, f a = .next s) : Stages inp db plan now (continueWith f (db, result)) := by
  cases result with
  | error => exact .raises
  | ok a =>
    obtain ⟨s, hs⟩ := hnext a
    rw [continueWith, hs]
    exact .reads

lemma unit_ok {result : Except SpoolError Db} {u : Unit} (h : unit result = .ok (db', u)) :
    result = .ok db' := by
  cases result with
  | error => cases h
  | ok => cases h; rfl

lemma Stages.of_except {result : Except SpoolError Db} {raised : SpoolError}
    (hresult : ∀ db1 e, result = .ok db1 → StageTx inp db plan now db1 (.failed e)) :
    Stages inp db plan now (reraise raised (transact commit db (unit result))) := by
  obtain ⟨e, he, -⟩ | ⟨db1, a, hok, he | he⟩ := transact_cases commit db (unit result)
  all_goals rw [he]
  · exact .fails
  · exact .commits (hresult _ _ (unit_ok hok))
  · exact .commits (hresult _ _ (unit_ok hok))

lemma dataKeyFor_writes {u : Unit} (h : dataKeyFor inp db plan now = .ok (db', u)) :
    ∃ admissionKeys, db' = { db with admissionKeys := admissionKeys } := by
  unfold dataKeyFor at h
  split at h
  · simp only [bind_ok, pure_ok, Prod.mk.injEq] at h
    obtain ⟨-, -, rfl, -⟩ := h
    exact ⟨db.admissionKeys, rfl⟩
  · simp only [bind_ok, pure_ok, Prod.mk.injEq] at h
    obtain ⟨_, -, admissionKeys, -, rfl, -⟩ := h
    exact ⟨admissionKeys, rfl⟩

/-- What a step inside the `try` block can do. -/
theorem stageStep_cases (inp : StepInput) (db : Db) (plan : AdmissionPlan) (now : Time)
    (stage : Stage) : Stages inp db plan now (stageStep inp db plan now stage) := by
  cases stage with
  | resumePromoted =>
    simp only [stageStep]
    split
    · exact .reads
    · exact .of_read (fun _ => ⟨_, rfl⟩)
  | dataKey =>
    refine .of_transact (fun db1 u hok => ?_)
    obtain ⟨admissionKeys, rfl⟩ := dataKeyFor_writes hok
    exact .dataKey
  | stageDocument | publishFile | verify => exact .of_read (fun _ => ⟨_, rfl⟩)
  | recordStaged =>
    refine .of_transact (fun db1 u hok => ?_)
    obtain ⟨artifacts, rfl⟩ := recordStagedArtifact_eq (unit_ok hok)
    exact .recordStaged
  | finalize => exact .of_transact (fun _ _ hok => .finalize hok)
  | removeMissing =>
    exact .of_transact (fun _ _ hok => .removeMissing (unit_ok hok))
  | abort =>
    simp only [stageStep]
    split
    · exact .fails
    · exact .of_except (fun _ _ hok => .abort hok)
  | release => exact .of_except (fun _ _ hok => .release hok)

lemma acceptExcept_cases (m : AdmissionManifest) (now : Time) (plan : AdmissionPlan) (stage : Stage)
    (e : SpoolError) :
    CallSteps inp db (.accepting m now plan stage) (acceptExcept db m now plan e) := by
  unfold acceptExcept
  repeat' split
  all_goals first | exact .restarts | exact .moves | exact .raises

lemma reconcileExcept_cases (db : Db) (now : Time) (todo : List AdmissionRow) (x : String)
    (e : SpoolError) :
    (∃ e', reconcileExcept db now todo x e = (db, .inr (.raised e'))) ∨
      reconcileExcept db now todo x e = (db, .inl (.reconcileNext now todo)) ∨
      ∃ code, reconcileExcept db now todo x e = (db, .inl (.reconcileAbort now todo x code)) := by
  unfold reconcileExcept
  split
  all_goals first
    | exact .inr (.inl rfl)
    | exact .inr (.inr ⟨_, rfl⟩)
    | exact .inl ⟨_, rfl⟩

lemma callStep_accepting (m : AdmissionManifest) (now : Time) (plan : AdmissionPlan) (stage : Stage) :
    CallSteps inp db (.accepting m now plan stage)
      (callStep inp db (.accepting m now plan stage)) := by
  have hstage := stageStep_cases inp db plan now stage
  generalize hresult : stageStep inp db plan now stage = result at hstage
  simp only [callStep, hresult]
  cases hstage with
  | reads => exact .moves
  | raises => exact acceptExcept_cases m now plan stage _
  | fails => exact .raises
  | uncertain htx => exact .lost (.accepting htx)
  | @commits db' result htx =>
    cases result with
    | next => exact .writes htx
    | accepted => exact .accepts htx
    | removed => exact .removes htx
    | failed => exact .lost (.accepting htx)

lemma callStep_reconciling (now : Time) (todo : List AdmissionRow) (plan : AdmissionPlan)
    (stage : Stage) : CallSteps inp db (.reconciling now todo plan stage)
      (callStep inp db (.reconciling now todo plan stage)) := by
  have hstage := stageStep_cases inp db plan now stage
  generalize hresult : stageStep inp db plan now stage = result at hstage
  simp only [callStep, hresult]
  cases hstage with
  | reads => exact .planMoves
  | @raises e =>
    dsimp only
    obtain ⟨e', he⟩ | he | ⟨code, he⟩ := reconcileExcept_cases db now todo plan.admissionId e
    all_goals rw [he]
    · exact .raises
    · exact .planSkips
    · exact .planGives
  | fails => exact .raises
  | uncertain htx => exact .planDone htx
  | @commits db' result htx =>
    cases result with
    | next => exact .planWrites htx
    | accepted | removed => exact .planDone htx
    | failed => exact .lost (.reconciling htx)

lemma callStep_reconcileNext (now : Time) (row : AdmissionRow) (todo : List AdmissionRow) :
    CallSteps inp db (.reconcileNext now (row :: todo))
      (callStep inp db (.reconcileNext now (row :: todo))) := by
  have raised : ∀ e, CallSteps inp db (.reconcileNext now (row :: todo))
      (reconcileExcept db now todo row.id e) := by
    intro e
    obtain ⟨e', he⟩ | he | ⟨code, he⟩ := reconcileExcept_cases db now todo row.id e
    all_goals rw [he]
    · exact .raises
    · exact .skips
    · exact .gives
  simp only [callStep]
  split
  · -- an admission without an artifact gives its reservations back
    obtain ⟨e, he, -⟩ | ⟨db1, a, hok, he | he⟩ := transact_cases inp.commit db
      (unit (releaseAdmissionReservations db row.id now))
    all_goals rw [he]
    · exact raised e
    · exact .releases (unit_ok hok)
    · exact .releases (unit_ok hok)
  · split
    · exact raised _
    · rename_i hplan
      split
      · exact raised _
      · exact .plans hplan
      · exact .plans hplan

/-- What a step of a call can do. -/
theorem callStep_cases (inp : StepInput) (db : Db) (call : Call) :
    CallSteps inp db call (callStep inp db call) := by
  cases call with
  | accept =>
    simp only [callStep]
    split
    · exact .raises
    · exact .replays ‹_›
    · split
      · exact .raises
      · exact .begins
  | acceptLoop m now =>
    obtain ⟨e, he, -⟩ | ⟨db1, prepared, hok, he | he⟩ := transact_cases inp.commit db
      (prepare inp.env.policy inp.env.owner db m now inp.ids inp.graphOk)
    all_goals simp only [callStep, he]
    · exact .raises
    · cases prepared with
      | accepted => exact .answers hok
      | plan => exact .prepares hok
    · exact .lost (.prepare hok)
  | accepting m now plan stage => exact callStep_accepting m now plan stage
  | reconcile => exact .reconciles
  | reconcileNext now todo =>
    cases todo with
    | nil => exact .admissionsDone
    | cons row todo => exact callStep_reconcileNext now row todo
  | reconciling now todo plan stage => exact callStep_reconciling now todo plan stage
  | reconcileAbort now todo x code =>
    simp only [callStep]
    split
    · exact .raises
    · obtain ⟨e, he, -⟩ | ⟨db1, a, hok, he | he⟩ := transact_cases inp.commit db
        (unit (abortPreaccept db x code now))
      all_goals rw [he]
      · exact .raises
      · exact .aborts (unit_ok hok)
      · exact .lost (.abort (unit_ok hok))
  | reconcileJobs => exact .readsJobs
  | reconcileJob now todo =>
    cases todo with
    | nil => exact .jobsDone
    | cons =>
      simp only [callStep]
      repeat' split
      all_goals first | exact .keepsJob | exact .misses | exact .raises
  | failJob now todo job artifact =>
    obtain ⟨e, he, -⟩ | ⟨db1, a, hok, he | he⟩ := transact_cases inp.commit db
      (unit (failAcceptedJobWithoutContent db job artifact now))
    all_goals simp only [callStep, he]
    · exact .raises
    · exact .fails (unit_ok hok)
    · exact .lost (.fail (unit_ok hok))

lemma CallSteps.effect (h : CallSteps inp db call (db', next)) :
    db' = db ∨ CallTx inp db call db' := by
  cases h with
  | lost htx => exact .inr htx
  | answers hok | prepares hok => exact .inr (.prepare hok)
  | writes htx | accepts htx | removes htx => exact .inr (.accepting htx)
  | releases hok => exact .inr (.release hok)
  | planWrites htx | planDone htx => exact .inr (.reconciling htx)
  | aborts hok => exact .inr (.abort hok)
  | fails hok => exact .inr (.fail hok)
  | _ => exact .inl rfl

structure TodoOk (db : Db) (todo : List AdmissionRow) : Prop where
  nodup : (todo.map AdmissionRow.id).Nodup
  opened : ∀ row ∈ todo, Unaccepted db row.id

def CallInv (db : Db) : Call → Prop
  | .accept _ | .acceptLoop _ _ | .reconcile | .reconcileJobs _ => True
  | .accepting _ _ plan _ => PlanOk db plan
  | .reconcileNext _ todo => TodoOk db todo
  | .reconciling _ todo plan _ =>
    PlanOk db plan ∧ TodoOk db todo ∧ ∀ row ∈ todo, row.id ≠ plan.admissionId
  | .reconcileAbort _ todo x _ =>
    Unaccepted db x ∧ TodoOk db todo ∧ ∀ row ∈ todo, row.id ≠ x
  | .reconcileJob _ todo => ∀ job ∈ todo, job.entry ∈ db.journal.log
  | .failJob _ todo job _ => job.entry ∈ db.journal.log ∧
      ∀ job ∈ todo, job.entry ∈ db.journal.log

def NextInv (db : Db) : Call ⊕ Outcome → Prop
  | .inl call => CallInv db call
  | .inr _ => True

lemma TodoOk.others (h : TodoOk db todo) (hne : ∀ row ∈ todo, row.id ≠ x)
    (hothers : OthersOpen db db' x) : TodoOk db' todo :=
  ⟨h.nodup, fun row hrow => hothers _ (hne row hrow) (h.opened row hrow)⟩

lemma planFromRows_ok {row : AdmissionRow} {artifact : ArtifactRow} (hopen : Unaccepted db row.id)
    (h : planFromRows db row artifact = .ok plan) : PlanOk db plan ∧ plan.admissionId = row.id := by
  simp only [planFromRows, bind_ok, orRaise_ok, pure_ok] at h
  obtain ⟨proof, -, active, hactive, rfl⟩ := h
  obtain ⟨hmem, hp⟩ := Table.first_spec hactive
  simp only [Bool.and_eq_true, beq_iff_eq] at hp
  exact ⟨⟨hopen, active, hmem, rfl, admissionKind_of_admissionId hmem hp.1, hp.1⟩, rfl⟩

lemma stagingAdmissions_ok (db : Db) : TodoOk db (stagingAdmissions db) := by
  constructor
  · have hpair := db.admissions.wf.2.filter (fun r => r.state == .staging || r.state == .finalizing)
    rw [List.Nodup, List.pairwise_map]
    refine hpair.imp ?_
    intro a b hab hid
    have hc : AdmissionRow.spec.conflict a b = true :=
      List.any_eq_true.mpr ⟨AdmissionRow.primaryKey, by simp [AdmissionRow.spec],
        UniqueIndex.conflict_of_key (k := a.id) rfl (by simp [AdmissionRow.primaryKey, hid])⟩
    simp [hc] at hab
  · intro row hrow
    simp only [stagingAdmissions, Table.select, List.mem_filter, Bool.or_eq_true,
      beq_iff_eq] at hrow
    exact ⟨row, hrow.1, rfl, hrow.2⟩

lemma reconcileJobs_ok {codes : String → String → Prop} (hj : db.JournalConsistent codes)
    (p : PrintJobRow → Bool) : ∀ job ∈ db.jobs.select p, job.entry ∈ db.journal.log := by
  intro job hjob
  have hhead : job.entry ∈ db.journal.heads := List.mem_map_of_mem (List.mem_of_mem_filter hjob)
  have hlast := List.mem_of_getLast? (hj.last _ hhead)
  exact List.mem_of_mem_filter hlast

def Call.Failing (call : Option Call) (job : PrintJobRow) : Prop :=
  ∃ now todo artifact, call = some (.failJob now todo job artifact)

lemma StageTx.planWrites {result : StageResult} (htx : StageTx inp db plan now db' result)
    (hplan : PlanOk db plan) : PlanWrites F db db' plan.admissionId := by
  cases htx with
  | dataKey | recordStaged => exact ⟨.single (.other rfl rfl rfl rfl rfl), .of_admissions rfl⟩
  | finalize hok => exact finalize_writes hplan hok
  | removeMissing hok => exact removeMissingArtifact_writes hplan hok
  | abort hok => exact abortPreaccept_writes hplan.admission hok
  | release hok => exact releaseReservation_writes hplan hok

lemma StageTx.planOk (htx : StageTx inp db plan now db' (.next stage)) (hplan : PlanOk db plan) :
    PlanOk db' plan := by
  cases htx <;> exact hplan.of_eq rfl rfl

lemma CallTx.writes (htx : CallTx inp db call db') (hcall : CallInv db call) :
    SpoolWrites (Call.Failing (some call)) db db' := by
  cases htx with
  | prepare hok => exact (prepare_preparing hok).writes.1
  | accepting htx => exact (htx.planWrites hcall).writes
  | release hok =>
    exact (releaseAdmissionReservations_writes (hcall.opened _ List.mem_cons_self) hok).writes
  | reconciling htx => exact (htx.planWrites hcall.1).writes
  | abort hok => exact (abortPreaccept_writes hcall.1 hok).writes
  | fail hok => exact failAcceptedJobWithoutContent_writes ⟨_, _, _, rfl⟩ hcall.1 hok

lemma TodoOk.tail {row : AdmissionRow} (h : TodoOk db (row :: todo)) :
    TodoOk db todo ∧ ∀ r ∈ todo, r.id ≠ row.id := by
  have hnodup := h.nodup
  rw [List.map_cons, List.nodup_cons] at hnodup
  exact ⟨⟨hnodup.2, fun r hr => h.opened r (List.mem_cons_of_mem _ hr)⟩,
    fun r hr he => hnodup.1 (he ▸ List.mem_map_of_mem hr)⟩

/-- A step from a valid position ends the call or reaches one. -/
theorem CallSteps.promises {codes : String → String → Prop} (h : CallSteps inp db call (db', next))
    (hj : db.JournalConsistent codes) (hcall : CallInv db call) :
    SpoolWrites (Call.Failing (some call)) db db' ∧ NextInv db' next := by
  have hw : SpoolWrites (Call.Failing (some call)) db db' := by
    rcases h.effect with rfl | htx
    · exact .refl
    · exact htx.writes hcall
  refine ⟨hw, ?_⟩
  cases h with
  | raises | lost | replays | begins | answers | restarts | accepts | removes | admissionsDone
  | jobsDone => trivial
  | prepares hok => exact ((prepare_preparing hok).writes (F := fun _ => False)).2
  | moves | planMoves => exact hcall
  | writes htx => exact htx.planOk hcall
  | reconciles => exact stagingAdmissions_ok db
  | skips => exact hcall.tail.1
  | gives => exact ⟨hcall.opened _ List.mem_cons_self, hcall.tail⟩
  | releases hok =>
    have hwrites := releaseAdmissionReservations_writes (F := fun _ => False)
      (hcall.opened _ List.mem_cons_self) hok
    exact hcall.tail.1.others hcall.tail.2 hwrites.others
  | plans hplan =>
    obtain ⟨hplan, hid⟩ := planFromRows_ok (hcall.opened _ List.mem_cons_self) hplan
    exact ⟨hplan, hcall.tail.1, hid ▸ hcall.tail.2⟩
  | planSkips => exact hcall.2.1
  | planGives => exact ⟨hcall.1.admission, hcall.2⟩
  | planWrites htx =>
    have hwrites := htx.planWrites (F := fun _ => False) hcall.1
    exact ⟨htx.planOk hcall.1, hcall.2.1.others hcall.2.2 hwrites.others, hcall.2.2⟩
  | planDone htx =>
    have hwrites := htx.planWrites (F := fun _ => False) hcall.1
    exact hcall.2.1.others hcall.2.2 hwrites.others
  | aborts hok =>
    have hwrites := abortPreaccept_writes (F := fun _ => False) hcall.1 hok
    exact hcall.2.1.others hcall.2.2 hwrites.others
  | readsJobs => exact reconcileJobs_ok hj _
  | keepsJob => exact fun j hj => hcall j (List.mem_cons_of_mem _ hj)
  | misses =>
    exact ⟨hcall _ List.mem_cons_self, fun j hj => hcall j (List.mem_cons_of_mem _ hj)⟩
  | fails => exact fun j hj => hw.log_subset (hcall.2 j hj)

end DurableSpoolAdmissionStore

end Inari.Agent
