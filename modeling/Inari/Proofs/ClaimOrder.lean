import Inari.Proofs.DeviceExecution

/-!
# Which job is claimed next

`claim_next` expires the jobs whose time is over and passes over those whose Device is busy.
-/

namespace Inari.Agent

open Lib SqliteExecutionLedger

lemma claimOrder_iff (a b : PrintJobRow) :
    claimOrder a b ↔ toLex (a.acceptedAt, a.id) ≤ toLex (b.acceptedAt, b.id) := by
  rw [Prod.Lex.le_iff]
  rfl

instance : Std.Total claimOrder where
  total a b := by
    simp only [claimOrder_iff]
    exact le_total _ _

instance : IsTrans PrintJobRow claimOrder where
  trans a b c := by
    simp only [claimOrder_iff]
    exact le_trans

/-- `claim_next` may take the accepted job now. -/
def Claimable (env : LedgerEnv) (db : Db) (deviceId : Option String) (now : Time)
    (job : PrintJobRow) : Prop :=
  (deviceId = none ∨ deviceId = some job.deviceId) ∧ now < job.expiresAt ∧
    deviceIsBusy env db job.deviceId now = false

/-- The first of the ready jobs is claimed, and without one there is no claim. -/
def Picked (ready : PrintJobRow → Prop) (jobs : List PrintJobRow) : Option ExecutionClaim → Prop
  | none => ∀ job ∈ jobs, ¬ready job
  | some c => ∃ job ∈ jobs, ready job ∧ c.jobId = job.id ∧
      ∀ other ∈ jobs, ready other → claimOrder job other

lemma Picked.cons {ready : PrintJobRow → Prop} {job : PrintJobRow} {jobs : List PrintJobRow}
    {r : Option ExecutionClaim} (h : Picked ready jobs r) (hnot : ¬ready job) :
    Picked ready (job :: jobs) r := by
  cases r with
  | none => exact List.forall_mem_cons.mpr ⟨hnot, h⟩
  | some =>
    obtain ⟨first, hfirst, hready, hid, hrest⟩ := h
    exact ⟨first, List.mem_cons_of_mem _ hfirst, hready, hid,
      List.forall_mem_cons.mpr ⟨fun h => absurd h hnot, hrest⟩⟩

lemma reservations_of_expireAccepted {db db' : Db} {job : PrintJobRow} {now : Time}
    (h : expireAccepted db job now = .ok db') : db'.reservations = db.reservations := by
  simp only [expireAccepted, bind_ok] at h
  obtain ⟨jobs, -, ⟨db1, n⟩, hevent, hrelease⟩ := h
  obtain ⟨events, rfl, -⟩ := insertEvent_eq hevent
  obtain ⟨artifacts, jobKeys, rfl⟩ := scheduleArtifactRelease_eq hrelease
  rfl

lemma jobId_of_claim {env : LedgerEnv} {db db' : Db} {job : PrintJobRow} {owner : ExecutionOwner}
    {now leaseExpiresAt : Time} {ids : ClaimIds} {c : ExecutionClaim}
    (h : claim env db job owner now leaseExpiresAt ids = .ok (db', c)) : c.jobId = job.id := by
  simp only [claim, bind_ok, pure_ok, Prod.mk.injEq] at h
  obtain ⟨_, -, _, -, _, -, _, -, _, -, _, -, _, -, _, -, -, rfl⟩ := h
  rfl

lemma claimLoop_picked {env : LedgerEnv} {owner : ExecutionOwner} {deviceId : Option String}
    {now : Time} {ids : ClaimIds} {start db db' : Db} {jobs : List PrintJobRow}
    {r : Option ExecutionClaim} (hsorted : jobs.Pairwise claimOrder)
    (hkept : db.reservations = start.reservations)
    (h : claimLoop env owner deviceId now ids db jobs = .ok (db', r)) :
    Picked (Claimable env start deviceId now) jobs r := by
  induction jobs generalizing db with
  | nil =>
    obtain ⟨-, rfl⟩ := Prod.mk.inj (Except.ok.inj h)
    simp [Picked]
  | cons job rest ih =>
    obtain ⟨hfirst, hsorted⟩ := List.pairwise_cons.mp hsorted
    have hbusy : deviceIsBusy env db job.deviceId now =
        deviceIsBusy env start job.deviceId now := by
      rw [deviceIsBusy, deviceIsBusy, hkept]
    rw [claimLoop, hbusy] at h
    split at h
    next hdevice =>
      refine (ih hsorted hkept h).cons fun hready => ?_
      rcases hready.1 with rfl | rfl <;> simp at hdevice
    next hdevice =>
    split at h
    next hexpired =>
      obtain ⟨db1, hexpire, h⟩ := bind_ok.mp h
      have hsame := (reservations_of_expireAccepted hexpire).trans hkept
      exact (ih hsorted hsame h).cons fun hready => absurd hexpired (not_le.mpr hready.2.1)
    next hlive =>
    split at h
    next hb => exact (ih hsorted hkept h).cons fun hready => by simp [hready.2.2] at hb
    next hfree =>
      simp only [bind_ok, pure_ok, Prod.mk.injEq] at h
      obtain ⟨⟨db1, c⟩, hclaim, rfl, rfl⟩ := h
      have hready : Claimable env start deviceId now job := by
        refine ⟨?_, not_le.mp hlive, Bool.eq_false_iff.mpr hfree⟩
        cases deviceId with
        | none => exact .inl rfl
        | some => exact .inr (by simpa using hdevice)
      exact ⟨job, List.mem_cons_self, hready, jobId_of_claim hclaim,
        List.forall_mem_cons.mpr ⟨fun _ => .inr ⟨rfl, le_refl _⟩, fun other hother _ =>
          hfirst other hother⟩⟩

/-- `claim_next` takes the oldest accepted job that can be executed now, and returns nothing only
if there is none. -/
theorem claims_oldest_ready (env : LedgerEnv) (db db' : Db) (owner : ExecutionOwner)
    (deviceId : Option String) (now : Time) (ids : ClaimIds) (r : Option ExecutionClaim)
    (h : claimNext env db owner deviceId now ids = .ok (db', r)) :
    Picked (Claimable env db deviceId now) (db.jobs.select (fun job => job.state == .accepted))
      r := by
  have hpicked := claimLoop_picked (List.pairwise_insertionSort claimOrder _) rfl h
  have hmem := fun job => (List.perm_insertionSort claimOrder
    (db.jobs.select (fun r => r.state == .accepted))).mem_iff (a := job)
  cases r with
  | none => exact fun job hjob => hpicked job ((hmem job).mpr hjob)
  | some =>
    obtain ⟨job, hjob, hready, hid, hfirst⟩ := hpicked
    exact ⟨job, (hmem job).mp hjob, hready, hid,
      fun other hother => hfirst other ((hmem other).mpr hother)⟩

def sampleAdmitted : Db := (final Claimed.step {} sampleAdmission).agent.db

def sampleIds : ClaimIds := ⟨"attempt", "lease", "execution", "temp"⟩

theorem only_job_claimed : ∃ db' c,
    claimNext sampleEnv sampleAdmitted sampleOwner none 1 sampleIds = .ok (db', some c) ∧
      c.jobId = "job" ∧ Picked (Claimable sampleEnv sampleAdmitted none 1)
        (sampleAdmitted.jobs.select (fun job => job.state == .accepted)) (some c) := by
  have hclaim : (claimNext sampleEnv sampleAdmitted sampleOwner none 1 sampleIds).toOption.map
      Prod.snd = some (some sampleIssued) := by decide +kernel
  cases h : claimNext sampleEnv sampleAdmitted sampleOwner none 1 sampleIds with
  | error => simp [h, Except.toOption] at hclaim
  | ok result =>
    obtain ⟨db', r⟩ := result
    simp only [h, Except.toOption, Option.map_some, Option.some.injEq] at hclaim
    subst hclaim
    exact ⟨db', sampleIssued, rfl, rfl, claims_oldest_ready _ _ _ _ _ _ _ _ h⟩

end Inari.Agent
