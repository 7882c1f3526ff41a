import Inari.Proofs.AgentJournal

/-!
# Attempts, execution reservations and running jobs

A write of the Agent leaves the three tables as they are, or claims, starts or ends one execution.
-/

namespace Inari.Agent

open Lib SqliteExecutionLedger

/-- A later attempt of a job has a greater number, and those before it are over. -/
def Execution.Precedes (x y : Execution) : Prop :=
  x.jobId = y.jobId → x.stage = .over ∧ x.attemptNumber < y.attemptNumber

structure Coupled (db : Db) : Prop where
  ordered : db.executions.Pairwise Execution.Precedes
  numbered : ∀ x ∈ db.executions,
    x.attemptNumber ≤ db.executions.countP (fun y => y.jobId == x.jobId)
  waiting : ∀ x ∈ db.executions, x.stage = .waiting → x.marked = false
  started : ∀ x ∈ db.executions, x.stage = .started → x.marked = true
  held : ∀ x ∈ db.executions, x.stage ≠ .over → ∃ h ∈ db.holds, h.For x
  active : ∀ h ∈ db.holds, ∃ x ∈ db.executions, x.stage ≠ .over ∧ h.For x
  device : ∀ h ∈ db.holds, ∀ jobId, h.jobId = some jobId → db.OnDevice jobId h.deviceId
  progress : ∀ jobId, db.InProgress jobId ↔
    ∃ x ∈ db.executions, x.jobId = jobId ∧ x.stage = .started

structure ExecutionKept (db db' : Db) : Prop where
  executions : db'.executions = db.executions
  holds : db'.holds = db.holds
  device : ∀ jobId deviceId, db.OnDevice jobId deviceId → db'.OnDevice jobId deviceId
  progress : ∀ jobId, db'.InProgress jobId ↔ db.InProgress jobId

structure ExecutionAdded (x : Execution) (deviceId : String) (db db' : Db) : Prop where
  stage : x.stage = .waiting
  marked : x.marked = false
  ended : ∀ y ∈ db.executions, y.jobId = x.jobId → y.stage = .over
  fresh : ∀ y ∈ db.executions, y.attemptId ≠ x.attemptId
  number : x.attemptNumber = db.executions.countP (fun y => y.jobId == x.jobId) + 1
  device : db.OnDevice x.jobId deviceId
  executions : db'.executions = db.executions ++ [x]
  holds : db'.holds = db.holds ++ [⟨some x.jobId, deviceId, x.ownerId, x.ownerGeneration⟩]
  jobs : db'.jobs = db.jobs

structure ExecutionStarted (x : Execution) (db db' : Db) : Prop where
  mem : x ∈ db.executions
  stage : x.stage = .waiting
  executions : db'.executions = db.executions.map
    (Function.update id x { x with stage := .started, marked := true })
  holds : db'.holds = db.holds
  device : ∀ jobId deviceId, db.OnDevice jobId deviceId → db'.OnDevice jobId deviceId
  progress : ∀ jobId, db'.InProgress jobId ↔ db.InProgress jobId ∨ jobId = x.jobId

structure ExecutionEnded (x : Execution) (db db' : Db) : Prop where
  mem : x ∈ db.executions
  active : x.stage ≠ .over
  executions : db'.executions = db.executions.map (Function.update id x { x with stage := .over })
  holds : ∃ q : Hold → Bool, (∀ h, q h = true → h.jobId = some x.jobId) ∧
    (∀ h : Hold, h.For x → q h = true) ∧ db'.holds = db.holds.filter (fun h => !q h)
  device : ∀ jobId deviceId, db.OnDevice jobId deviceId → db'.OnDevice jobId deviceId
  progress : ∀ jobId, db'.InProgress jobId ↔ db.InProgress jobId ∧ jobId ≠ x.jobId

inductive ExecutionWrite (db db' : Db) : Prop
  | keep (h : ExecutionKept db db')
  | claim (x : Execution) (deviceId : String) (h : ExecutionAdded x deviceId db db')
  | start (x : Execution) (h : ExecutionStarted x db db')
  | finish (x : Execution) (h : ExecutionEnded x db db')

lemma ExecutionKept.refl (db : Db) : ExecutionKept db db := ⟨rfl, rfl, fun _ _ h => h, fun _ => .rfl⟩

lemma ExecutionKept.trans {a b c : Db} (h : ExecutionKept a b) (h' : ExecutionKept b c) :
    ExecutionKept a c :=
  ⟨h'.executions.trans h.executions, h'.holds.trans h.holds,
    fun jobId deviceId hon => h'.device jobId deviceId (h.device jobId deviceId hon),
    fun jobId => (h'.progress jobId).trans (h.progress jobId)⟩

section Invariant

variable {db db' : Db} {l : List Execution} {x n y : Execution}

lemma mem_map_update {z : Execution} :
    z ∈ l.map (Function.update id x n) ↔ (x ∈ l ∧ z = n) ∨ (z ∈ l ∧ z ≠ x) := by
  rw [List.mem_map]
  constructor
  · rintro ⟨y, hy, rfl⟩
    by_cases hyx : y = x
    · subst hyx
      exact .inl ⟨hy, Function.update_self ..⟩
    · rw [Function.update_of_ne hyx]
      exact .inr ⟨hy, hyx⟩
  · rintro (⟨hx, rfl⟩ | ⟨hz, hne⟩)
    · exact ⟨x, hx, Function.update_self ..⟩
    · exact ⟨z, hz, Function.update_of_ne hne ..⟩

lemma execution_eq_of_id (hx : x ∈ db.executions) (hy : y ∈ db.executions)
    (h : x.attemptId = y.attemptId) : x = y := by
  obtain ⟨a, ha, rfl⟩ := List.mem_map.mp hx
  obtain ⟨b, hb, rfl⟩ := List.mem_map.mp hy
  rw [attempt_eq_of_id db ha hb h]

/-- Of two attempts of a job the older one is over. -/
lemma Coupled.compare (hc : Coupled db) (hx : x ∈ db.executions) (hy : y ∈ db.executions)
    (hne : x ≠ y) (hjob : x.jobId = y.jobId) :
    (x.stage = .over ∧ x.attemptNumber < y.attemptNumber) ∨
      (y.stage = .over ∧ y.attemptNumber < x.attemptNumber) := by
  let R (x y : Execution) : Prop := x.jobId = y.jobId →
    (x.stage = .over ∧ x.attemptNumber < y.attemptNumber) ∨
      (y.stage = .over ∧ y.attemptNumber < x.attemptNumber)
  have : Std.Symm R := ⟨fun x y h hjob => (h hjob.symm).symm⟩
  have hpair : db.executions.Pairwise R := hc.ordered.imp (fun h hjob => .inl (h hjob))
  exact hpair.forall hx hy hne hjob

lemma Coupled.eq_of_job (hc : Coupled db) (hx : x ∈ db.executions) (hy : y ∈ db.executions)
    (hxs : x.stage ≠ .over) (hys : y.stage ≠ .over) (hjob : x.jobId = y.jobId) : x = y := by
  by_contra hne
  rcases hc.compare hx hy hne hjob with h | h
  · exact hxs h.1
  · exact hys h.1

lemma precedes_update (h : l.Pairwise Execution.Precedes) (hx : x.stage ≠ .over)
    (hjob : n.jobId = x.jobId) (hnum : n.attemptNumber = x.attemptNumber) :
    (l.map (Function.update id x n)).Pairwise Execution.Precedes := by
  rw [List.pairwise_map]
  refine h.imp ?_
  intro a b hab
  by_cases ha : a = x
  · -- an attempt that is not over precedes none of its job
    subst ha
    have hne : a.jobId ≠ b.jobId := fun heq => hx (hab heq).1
    intro heq
    rw [Function.update_self, hjob] at heq
    by_cases hb : b = a
    · exact (hne (congrArg _ hb.symm)).elim
    · rw [Function.update_of_ne hb] at heq
      exact (hne heq).elim
  · rw [Function.update_of_ne ha]
    by_cases hb : b = x
    · subst hb
      intro heq
      rw [Function.update_self, hjob] at heq
      rw [Function.update_self, hnum]
      exact hab heq
    · rw [Function.update_of_ne hb]
      exact hab

lemma countP_update (hjob : n.jobId = x.jobId) (jobId : String) :
    (l.map (Function.update id x n)).countP (fun y => y.jobId == jobId) =
      l.countP (fun y => y.jobId == jobId) := by
  rw [List.countP_map]
  congr 1
  funext y
  by_cases hy : y = x
  · subst hy
    simp [hjob]
  · simp [Function.update_of_ne hy]

lemma numbered_update (h : ∀ y ∈ l, y.attemptNumber ≤ l.countP (fun z => z.jobId == y.jobId))
    (hjob : n.jobId = x.jobId) (hnum : n.attemptNumber = x.attemptNumber) :
    ∀ y ∈ l.map (Function.update id x n),
      y.attemptNumber ≤ (l.map (Function.update id x n)).countP (fun z => z.jobId == y.jobId) := by
  intro y hy
  rw [countP_update hjob]
  rcases mem_map_update.mp hy with ⟨hx, rfl⟩ | ⟨hy, -⟩
  · rw [hnum, hjob]
    exact h x hx
  · exact h y hy

lemma Coupled.keep (hc : Coupled db) (h : ExecutionKept db db') : Coupled db' where
  ordered := h.executions ▸ hc.ordered
  numbered := h.executions ▸ hc.numbered
  waiting := h.executions ▸ hc.waiting
  started := h.executions ▸ hc.started
  held := by
    rw [h.executions, h.holds]
    exact hc.held
  active := by
    rw [h.executions, h.holds]
    exact hc.active
  device := by
    rw [h.holds]
    exact fun x hx jobId hjob => h.device _ _ (hc.device x hx jobId hjob)
  progress := by
    rw [h.executions]
    exact fun jobId => (h.progress jobId).trans (hc.progress jobId)

lemma Coupled.claim (hc : Coupled db) {deviceId : String}
    (hadded : ExecutionAdded x deviceId db db') : Coupled db' := by
  obtain ⟨hstage, hmarked, hover, -, hnumber, hon, hexec, hholds, hjobs⟩ := hadded
  have hmem : ∀ {y}, y ∈ db'.executions ↔ y ∈ db.executions ∨ y = x := by
    intro y
    rw [hexec, List.mem_append, List.mem_singleton]
  have hhold : ∀ {h}, h ∈ db'.holds ↔
      h ∈ db.holds ∨ h = ⟨some x.jobId, deviceId, x.ownerId, x.ownerGeneration⟩ := by
    intro h
    rw [hholds, List.mem_append, List.mem_singleton]
  refine ⟨?_, ?_, ?_, ?_, ?_, ?_, ?_, ?_⟩
  · rw [hexec, List.pairwise_append]
    refine ⟨hc.ordered, List.pairwise_singleton _ _, ?_⟩
    intro y hy z hz hjob
    obtain rfl := List.mem_singleton.mp hz
    have hle := hc.numbered y hy
    rw [hjob] at hle
    exact ⟨hover y hy hjob, by omega⟩
  · intro y hy
    rw [hexec, List.countP_append]
    rcases hmem.mp hy with hy | rfl
    · exact Nat.le_add_right_of_le (hc.numbered y hy)
    · simp [hnumber]
  · intro y hy
    rcases hmem.mp hy with hy | rfl
    · exact hc.waiting y hy
    · exact fun _ => hmarked
  · intro y hy hy'
    rcases hmem.mp hy with hy | rfl
    · exact hc.started y hy hy'
    · rw [hstage] at hy'
      cases hy'
  · intro y hy hact
    rcases hmem.mp hy with hy | rfl
    · obtain ⟨h, hh, hfor⟩ := hc.held y hy hact
      exact ⟨h, hhold.mpr (.inl hh), hfor⟩
    · exact ⟨_, hhold.mpr (.inr rfl), rfl, rfl, rfl⟩
  · intro h hh
    rcases hhold.mp hh with hh | rfl
    · obtain ⟨y, hy, hact, hfor⟩ := hc.active h hh
      exact ⟨y, hmem.mpr (.inl hy), hact, hfor⟩
    · exact ⟨x, hmem.mpr (.inr rfl), by rw [hstage]; exact nofun, rfl, rfl, rfl⟩
  · intro h hh jobId hjob
    rw [Db.OnDevice, hjobs]
    rcases hhold.mp hh with hh | rfl
    · exact hc.device h hh jobId hjob
    · cases hjob
      exact hon
  · intro jobId
    rw [Db.InProgress, hjobs]
    refine (hc.progress jobId).trans ⟨?_, ?_⟩
    · rintro ⟨y, hy, hy'⟩
      exact ⟨y, hmem.mpr (.inl hy), hy'⟩
    · rintro ⟨y, hy, hjob, hy'⟩
      rcases hmem.mp hy with hy | rfl
      · exact ⟨y, hy, hjob, hy'⟩
      · rw [hstage] at hy'
        cases hy'

lemma Coupled.start (hc : Coupled db) (hstarted : ExecutionStarted x db db') : Coupled db' := by
  obtain ⟨hx, hstage, hexec, hholds, hdevice, hprogress⟩ := hstarted
  have hact : x.stage ≠ .over := by rw [hstage]; exact nofun
  have hmem : ∀ {y}, y ∈ db'.executions ↔
      (x ∈ db.executions ∧ y = { x with stage := .started, marked := true }) ∨
        (y ∈ db.executions ∧ y ≠ x) := by
    intro y
    rw [hexec, mem_map_update]
  refine ⟨?_, ?_, ?_, ?_, ?_, ?_, ?_, ?_⟩
  · rw [hexec]
    exact precedes_update hc.ordered hact rfl rfl
  · rw [hexec]
    exact numbered_update hc.numbered rfl rfl
  · intro y hy hy'
    rcases hmem.mp hy with ⟨-, rfl⟩ | ⟨hy, -⟩
    · cases hy'
    · exact hc.waiting y hy hy'
  · intro y hy hy'
    rcases hmem.mp hy with ⟨-, rfl⟩ | ⟨hy, -⟩
    · rfl
    · exact hc.started y hy hy'
  · intro y hy hy'
    rw [hholds]
    rcases hmem.mp hy with ⟨-, rfl⟩ | ⟨hy, -⟩
    · obtain ⟨h, hh, hfor⟩ := hc.held x hx hact
      exact ⟨h, hh, hfor.job, hfor.owner, hfor.generation⟩
    · exact hc.held y hy hy'
  · intro h hh
    rw [hholds] at hh
    obtain ⟨y, hy, hact', hfor⟩ := hc.active h hh
    by_cases heq : y = x
    · subst heq
      exact ⟨_, hmem.mpr (.inl ⟨hx, rfl⟩), nofun, hfor.job, hfor.owner, hfor.generation⟩
    · exact ⟨y, hmem.mpr (.inr ⟨hy, heq⟩), hact', hfor⟩
  · rw [hholds]
    exact fun h hh jobId hjob => hdevice _ _ (hc.device h hh jobId hjob)
  · intro jobId
    rw [hprogress, hc.progress]
    constructor
    · rintro (⟨y, hy, hjob, hy'⟩ | rfl)
      · refine ⟨y, hmem.mpr (.inr ⟨hy, ?_⟩), hjob, hy'⟩
        rintro rfl
        rw [hstage] at hy'
        cases hy'
      · exact ⟨_, hmem.mpr (.inl ⟨hx, rfl⟩), rfl, rfl⟩
    · rintro ⟨y, hy, rfl, hy'⟩
      rcases hmem.mp hy with ⟨-, rfl⟩ | ⟨hy, -⟩
      · exact .inr rfl
      · exact .inl ⟨y, hy, rfl, hy'⟩

lemma Coupled.finish (hc : Coupled db) (hended : ExecutionEnded x db db') : Coupled db' := by
  obtain ⟨hx, hact, hexec, ⟨q, hq, hall, hholds⟩, hdevice, hprogress⟩ := hended
  have hmem : ∀ {y}, y ∈ db'.executions ↔
      (x ∈ db.executions ∧ y = { x with stage := .over }) ∨ (y ∈ db.executions ∧ y ≠ x) := by
    intro y
    rw [hexec, mem_map_update]
  have hhold : ∀ {h}, h ∈ db'.holds ↔ h ∈ db.holds ∧ q h = false := by
    intro h
    rw [hholds, List.mem_filter, Bool.not_eq_true']
  -- the other attempts that are not over belong to other jobs
  have hother : ∀ {y}, y ∈ db.executions → y ≠ x → y.stage ≠ .over → y.jobId ≠ x.jobId :=
    fun hy hne hy' hjob => hne (hc.eq_of_job hy hx hy' hact hjob)
  refine ⟨?_, ?_, ?_, ?_, ?_, ?_, ?_, ?_⟩
  · rw [hexec]
    exact precedes_update hc.ordered hact rfl rfl
  · rw [hexec]
    exact numbered_update hc.numbered rfl rfl
  · intro y hy hy'
    rcases hmem.mp hy with ⟨-, rfl⟩ | ⟨hy, -⟩
    · cases hy'
    · exact hc.waiting y hy hy'
  · intro y hy hy'
    rcases hmem.mp hy with ⟨-, rfl⟩ | ⟨hy, -⟩
    · cases hy'
    · exact hc.started y hy hy'
  · intro y hy hy'
    rcases hmem.mp hy with ⟨-, rfl⟩ | ⟨hy, hne⟩
    · exact (hy' rfl).elim
    · obtain ⟨h, hh, hfor⟩ := hc.held y hy hy'
      refine ⟨h, hhold.mpr ⟨hh, ?_⟩, hfor⟩
      by_contra hqh
      have hjob := hq h (by simpa using hqh)
      rw [hfor.job] at hjob
      exact hother hy hne hy' (Option.some.inj hjob)
  · intro h hh
    obtain ⟨hh, hqh⟩ := hhold.mp hh
    obtain ⟨y, hy, hy', hfor⟩ := hc.active h hh
    refine ⟨y, hmem.mpr (.inr ⟨hy, ?_⟩), hy', hfor⟩
    rintro rfl
    rw [hall h hfor] at hqh
    cases hqh
  · intro h hh jobId hjob
    exact hdevice _ _ (hc.device h (hhold.mp hh).1 jobId hjob)
  · intro jobId
    rw [hprogress, hc.progress]
    constructor
    · rintro ⟨⟨y, hy, rfl, hy'⟩, hne⟩
      exact ⟨y, hmem.mpr (.inr ⟨hy, fun heq => hne (congrArg _ heq)⟩), rfl, hy'⟩
    · rintro ⟨y, hy, rfl, hy'⟩
      rcases hmem.mp hy with ⟨-, rfl⟩ | ⟨hy, hne⟩
      · cases hy'
      · exact ⟨⟨y, hy, rfl, hy'⟩, hother hy hne (by rw [hy']; exact nofun)⟩

/-- The writes of executions keep attempts, reservations and jobs together. -/
theorem Coupled.write (hc : Coupled db) (hw : ExecutionWrite db db') : Coupled db' := by
  cases hw with
  | keep h => exact hc.keep h
  | claim x deviceId h => exact hc.claim h
  | start x h => exact hc.start h
  | finish x h => exact hc.finish h

def Execution.ClaimedBy (x : Execution) (c : ExecutionClaim) : Prop :=
  x.attemptId = c.attemptId ∧ x.jobId = c.jobId ∧ x.ownerId = c.owner.ownerId ∧
    x.ownerGeneration = c.owner.generation

/-- There is an attempt for the claim. -/
def Issued (db : Db) (c : ExecutionClaim) : Prop :=
  ∃ x ∈ db.executions, x.ClaimedBy c

lemma Issued.update {c : ExecutionClaim} (h : Issued db c)
    (hexec : db'.executions = db.executions.map (Function.update id x n))
    (hid : n.attemptId = x.attemptId) (hjob : n.jobId = x.jobId) (howner : n.ownerId = x.ownerId)
    (hgen : n.ownerGeneration = x.ownerGeneration) : Issued db' c := by
  obtain ⟨y, hy, hyc⟩ := h
  by_cases heq : y = x
  · subst heq
    refine ⟨n, ?_, ?_⟩
    · rw [hexec]
      exact mem_map_update.mpr (.inl ⟨hy, rfl⟩)
    · rw [Execution.ClaimedBy, hid, hjob, howner, hgen]
      exact hyc
  · refine ⟨y, ?_, hyc⟩
    rw [hexec]
    exact mem_map_update.mpr (.inr ⟨hy, heq⟩)

lemma Issued.write {c : ExecutionClaim} (h : Issued db c) (hw : ExecutionWrite db db') :
    Issued db' c := by
  cases hw with
  | keep hkeep =>
    rw [Issued, hkeep.executions]
    exact h
  | claim x d hadded =>
    obtain ⟨y, hy, hyc⟩ := h
    refine ⟨y, ?_, hyc⟩
    rw [hadded.executions]
    exact List.mem_append_left _ hy
  | start x hstarted => exact h.update hstarted.executions rfl rfl rfl rfl
  | finish x hended => exact h.update hended.executions rfl rfl rfl rfl

end Invariant

end Inari.Agent
