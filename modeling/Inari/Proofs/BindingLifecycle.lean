import Inari.Lib.Run
import Inari.Odoo.Bindings

/-!
# The lifecycle of Device Bindings

A result that passes for the revision in use takes it back to `tested`, and one that fails the
contract of a tested revision leaves it ready for activation.
-/

namespace Inari.Odoo

open Lib

/-- The state of a revision when the active one of the Binding becomes `new`. -/
def repointed (b : Binding) (new : Option Nat) (r : Revision) : Revision :=
  if new = some r.id then { r with state := .active }
  else if b.activeRevisionId = some r.id then { r with state := .inactive } else r

def Binding.withRevision (new : Option Nat) (b : Binding) : Binding :=
  { b with
    activeRevisionId := new
    active := new.isSome
    state := if new.isSome then .active else .disabled }

structure Repoints (s : Store) (b : Binding) (new : Option Nat) (s' : Store) : Prop where
  mem : b ∈ s.bindings.rows
  owned : ∀ id, new = some id → ∃ r ∈ s.revisions.rows, r.id = id ∧ r.bindingId = b.id
  revisions : s'.revisions.rows = s.revisions.rows.map (repointed b new)
  bindings : s'.bindings.rows =
    Table.updated s.bindings.rows (·.id == b.id) (Binding.withRevision new)
  results : s'.results = s.results

inductive CallEffect (s : Store) : BindingCall → Store → Prop
  | finds {env binding device capability options profile newId} :
      CallEffect s (.createRevision env binding device capability options profile newId) s
  | adds {env binding device capability options profile newId revisions r} :
      revisions.rows = s.revisions.rows ++ [r] → r.state = .draft →
      CallEffect s (.createRevision env binding device capability options profile newId)
        { s with revisions }
  | records {record results revisions} : results.rows = s.results.rows ++ [record] →
      revisions.rows =
        Table.updated s.revisions.rows (·.id == record.bindingRevisionId) (Store.observe record) →
      CallEffect s (.createTestResult record) { s with results, revisions }
  | activates {env b r s'} : r ∈ s.revisions.rows → r.state = .tested →
      Repoints s b (some r.id) s' → CallEffect s (.activateRevision env b.id r.id) s'
  | deactivates {env b s'} : Repoints s b none s' → CallEffect s (.deactivate env b.id) s'

variable {s s' s'' : Store} {b b' : Binding} {r r' : Revision} {id : Nat} {new : Option Nat}
  {env : Env} {record : TestResult} {digestOf : Json → String}

lemma binding_spec (h : s.binding id = .ok b) : b ∈ s.bindings.rows ∧ b.id = id := by
  obtain ⟨hmem, hid⟩ := Table.first_spec (orRaise_ok.mp h)
  exact ⟨hmem, by simpa using hid⟩

lemma revision_spec (h : s.revision id = .ok r) : r ∈ s.revisions.rows ∧ r.id = id := by
  obtain ⟨hmem, hid⟩ := Table.first_spec (orRaise_ok.mp h)
  exact ⟨hmem, by simpa using hid⟩

lemma revision_unique (hr : r ∈ s.revisions.rows) (hr' : r' ∈ s.revisions.rows)
    (hid : r.id = r'.id) : r = r' :=
  s.revisions.eq_of_key (u := revisionPrimaryKey) (by simp [revisionSpec]) hr hr' (congrArg some hid)
    rfl

lemma binding_unique (hb : b ∈ s.bindings.rows) (hb' : b' ∈ s.bindings.rows) (hid : b.id = b'.id) :
    b = b' :=
  s.bindings.eq_of_key (u := bindingPrimaryKey) (by simp [bindingSpec]) hb hb' (congrArg some hid)
    rfl

lemma writeRevision_eq {f : Revision → Revision} (h : s.writeRevision id f = .ok s') :
    ∃ revisions, revisions.rows = Table.updated s.revisions.rows (·.id == id) f ∧
      s' = { s with revisions } := by
  simp only [Store.writeRevision, bind_ok, pure_ok] at h
  obtain ⟨revisions, h, rfl⟩ := h
  exact ⟨revisions, Table.update_rows h, rfl⟩

lemma writeBinding_eq {f : Binding → Binding} (h : s.writeBinding env id f = .ok s') :
    ∃ bindings, bindings.rows = Table.updated s.bindings.rows (·.id == id) f ∧
      s' = { s with bindings } := by
  simp only [Store.writeBinding, bind_ok, require_ok, pure_ok] at h
  obtain ⟨-, -, bindings, h, rfl⟩ := h
  exact ⟨bindings, Table.update_rows h, rfl⟩

lemma retire_eq {keep : Option Nat} (h : s.retire b keep = .ok s') :
    ∃ revisions, revisions.rows = s.revisions.rows.map (fun r =>
        if b.activeRevisionId = some r.id ∧ keep ≠ some r.id then { r with state := .inactive }
        else r) ∧
      s' = { s with revisions } := by
  unfold Store.retire at h
  split at h
  next old hold =>
    split_ifs at h with hkeep
    · refine ⟨s.revisions, ?_, (pure_ok.mp h).symm⟩
      have hsame : ∀ r : Revision, ¬(b.activeRevisionId = some r.id ∧ keep ≠ some r.id) := by
        rintro r ⟨hactive, hne⟩
        exact hne (by rw [hkeep, ← hold, hactive])
      simp only [hsame, if_false, List.map_id']
    · obtain ⟨revisions, hrows, rfl⟩ := writeRevision_eq h
      refine ⟨revisions, ?_, rfl⟩
      rw [hrows, Table.updated, hold]
      apply List.map_congr_left
      intro r hr
      by_cases heq : old = r.id
      · subst heq
        simp [hkeep]
      · simp [heq, Ne.symm heq]
  next hnone => exact ⟨s.revisions, by simp [hnone], (pure_ok.mp h).symm⟩

lemma actionActivateRevision_cases {bindingId revisionId : Nat}
    (h : s.actionActivateRevision env bindingId revisionId = .ok s') :
    CallEffect s (.activateRevision env bindingId revisionId) s' := by
  simp only [Store.actionActivateRevision, bind_ok, require_ok] at h
  obtain ⟨b, hfound, r, hrevision, -, howner, -, htested, s₁, hold, s₂, hnew, h⟩ := h
  obtain ⟨hb, rfl⟩ := binding_spec hfound
  obtain ⟨hr, rfl⟩ := revision_spec hrevision
  simp only [Bool.and_eq_true, beq_iff_eq] at howner htested
  obtain ⟨retired, hretired, rfl⟩ := retire_eq hold
  obtain ⟨revisions, hrows, rfl⟩ := writeRevision_eq hnew
  obtain ⟨bindings, hbindings, rfl⟩ := writeBinding_eq h
  refine .activates hr htested.1 ⟨hb, ?_, ?_, hbindings, rfl⟩
  · rintro _ ⟨rfl⟩
    exact ⟨r, hr, rfl, howner.1⟩
  · rw [hrows, hretired, Table.updated, List.map_map]
    apply List.map_congr_left
    intro x hx
    by_cases heq : r.id = x.id
    · simp [repointed, heq]
    · simp only [repointed, Function.comp_apply, Option.some.injEq, heq, ne_eq, not_false_eq_true, and_true,
        if_false]
      split_ifs <;> simp_all [Ne.symm heq]

lemma actionDeactivate_cases (h : s.actionDeactivate env id = .ok s') :
    CallEffect s (.deactivate env id) s' := by
  simp only [Store.actionDeactivate, bind_ok] at h
  obtain ⟨b, hfound, s₁, hold, h⟩ := h
  obtain ⟨hb, rfl⟩ := binding_spec hfound
  obtain ⟨retired, hretired, rfl⟩ := retire_eq hold
  obtain ⟨bindings, hbindings, rfl⟩ := writeBinding_eq h
  refine .deactivates ⟨hb, by simp, ?_, hbindings, rfl⟩
  rw [hretired]
  exact List.map_congr_left fun r _ => by simp [repointed]

lemma createTestResult_cases (h : s.createTestResult record = .ok s') :
    CallEffect s (.createTestResult record) s' := by
  simp only [Store.createTestResult, bind_ok, require_ok] at h
  obtain ⟨results, hresults, r, hr, -, -, h⟩ := h
  obtain ⟨revisions, hrows, rfl⟩ := writeRevision_eq h
  rw [(revision_spec hr).2] at hrows
  exact .records (Table.insert_rows hresults) hrows

lemma perform_cases {call : BindingCall} (h : s.perform digestOf call = .ok s') :
    CallEffect s call s' := by
  cases call with
  | createRevision =>
    obtain ⟨⟨s₁, r⟩, hcreate, rfl⟩ := map_ok.mp h
    simp only [Store.actionCreateRevision, bind_ok, require_ok] at hcreate
    obtain ⟨b, -, -, -, -, -, -, -, h⟩ := hcreate
    split at h
    · obtain ⟨rfl, -⟩ := Prod.mk.inj (pure_ok.mp h)
      exact .finds
    · simp only [bind_ok, pure_ok, Prod.mk.injEq] at h
      obtain ⟨revisions, hinsert, rfl, rfl⟩ := h
      exact .adds (Table.insert_rows hinsert) rfl
  | createTestResult => exact createTestResult_cases h
  | activateRevision => exact actionActivateRevision_cases h
  | deactivate => exact actionDeactivate_cases h

lemma bindingStep_cases (digestOf : Json → String) (s : Store) (e : BindingRequest) :
    ((bindingStep digestOf s e).1 = s ∧ (bindingStep digestOf s e).2 ≠ .ok ()) ∨
      CallEffect s e.call (bindingStep digestOf s e).1 := by
  unfold bindingStep
  split
  next s' h =>
    split_ifs at h
    exact .inr (perform_cases h)
  next => exact .inl ⟨rfl, nofun⟩

structure Pointed (s : Store) : Prop where
  owner : ∀ r ∈ s.revisions.rows, r.state = .active →
    ∃ b ∈ s.bindings.rows, b.id = r.bindingId ∧ b.activeRevisionId = some r.id
  target : ∀ b ∈ s.bindings.rows, ∀ id, b.activeRevisionId = some id →
    ∃ r ∈ s.revisions.rows, r.id = id ∧ r.bindingId = b.id
  current : ∀ b ∈ s.bindings.rows, b.state = .active → b.activeRevisionId ≠ none

lemma Pointed.owned (h : Pointed s) (hb : b ∈ s.bindings.rows) (hr : r ∈ s.revisions.rows)
    (hpoint : b.activeRevisionId = some r.id) : r.bindingId = b.id := by
  obtain ⟨x, hx, hid, hown⟩ := h.target b hb r.id hpoint
  rwa [revision_unique hx hr hid] at hown

lemma Pointed.single (h : Pointed s) (hr : r ∈ s.revisions.rows) (hr' : r' ∈ s.revisions.rows)
    (hsame : r.bindingId = r'.bindingId) (hactive : r.state = .active)
    (hactive' : r'.state = .active) : r = r' := by
  obtain ⟨b, hb, hid, hpoint⟩ := h.owner r hr hactive
  obtain ⟨b', hb', hid', hpoint'⟩ := h.owner r' hr' hactive'
  obtain rfl := binding_unique hb hb' (by rw [hid, hid', hsame])
  exact revision_unique hr hr' (Option.some.inj (hpoint.symm.trans hpoint'))

inductive Repointed (b : Binding) (new : Option Nat) (r : Revision) : Revision → Prop
  | activated : new = some r.id → Repointed b new r { r with state := .active }
  | retired : new ≠ some r.id → b.activeRevisionId = some r.id →
      Repointed b new r { r with state := .inactive }
  | kept : new ≠ some r.id → b.activeRevisionId ≠ some r.id → Repointed b new r r

lemma repointed_cases (b : Binding) (new : Option Nat) (r : Revision) :
    Repointed b new r (repointed b new r) := by
  unfold repointed
  split_ifs with hnew hold
  · exact .activated hnew
  · exact .retired hnew hold
  · exact .kept hnew hold

namespace Repoints

lemma revision_of_mem (h : Repoints s b new s') (hr : r ∈ s'.revisions.rows) :
    ∃ x ∈ s.revisions.rows, Repointed b new x r := by
  rw [h.revisions, List.mem_map] at hr
  obtain ⟨x, hx, rfl⟩ := hr
  exact ⟨x, hx, repointed_cases b new x⟩

lemma mem_revision (h : Repoints s b new s') (hr : r ∈ s.revisions.rows) :
    ∃ x ∈ s'.revisions.rows, Repointed b new r x :=
  ⟨_, h.revisions ▸ List.mem_map_of_mem hr, repointed_cases b new r⟩

lemma binding_cases (h : Repoints s b new s') (hb : b' ∈ s'.bindings.rows) :
    (b'.id = b.id ∧ b'.activeRevisionId = new ∧ (b'.state = .active → new ≠ none)) ∨
      (b'.id ≠ b.id ∧ b' ∈ s.bindings.rows) := by
  rcases Table.updated_cases h.bindings hb with ⟨hb, hid⟩ | ⟨x, hx, hid, rfl⟩
  · exact .inr ⟨beq_eq_false_iff_ne.mp hid, hb⟩
  · left
    cases new <;> simp [beq_iff_eq.mp hid, Binding.withRevision]

lemma mem_binding (h : Repoints s b new s') (hb : b' ∈ s.bindings.rows) (hne : b'.id ≠ b.id) :
    b' ∈ s'.bindings.rows :=
  Table.mem_left h.bindings hb (by simp [hne])

lemma pointed (h : Repoints s b new s') (hs : Pointed s) : Pointed s' where
  owner r hr hactive := by
    obtain ⟨x, hx, hrx⟩ := h.revision_of_mem hr
    cases hrx with
    | activated hnew =>
      obtain ⟨y, hy, hid, hown⟩ := h.owned x.id hnew
      obtain rfl := revision_unique hy hx hid
      exact ⟨b.withRevision new, Table.mem_written h.bindings h.mem (by simp), hown.symm, hnew⟩
    | retired => cases hactive
    | kept _ hold =>
      obtain ⟨y, hy, hid, hpoint⟩ := hs.owner r hx hactive
      refine ⟨y, h.mem_binding hy ?_, hid, hpoint⟩
      intro hyb
      exact hold (by rw [← binding_unique hy h.mem hyb, hpoint])
  target y hy id hpoint := by
    have hkept : ∀ x ∈ s.revisions.rows, ∃ r ∈ s'.revisions.rows, r.id = x.id ∧
        r.bindingId = x.bindingId := by
      intro x hx
      obtain ⟨r, hr, hxr⟩ := h.mem_revision hx
      exact ⟨r, hr, by cases hxr <;> exact ⟨rfl, rfl⟩⟩
    rcases h.binding_cases hy with ⟨hid, hnew, -⟩ | ⟨-, hy⟩
    · obtain ⟨x, hx, rfl, hown⟩ := h.owned id (hnew ▸ hpoint)
      obtain ⟨r, hr, hrid, hrown⟩ := hkept x hx
      exact ⟨r, hr, hrid, by rw [hrown, hown, hid]⟩
    · obtain ⟨x, hx, rfl, hown⟩ := hs.target y hy id hpoint
      obtain ⟨r, hr, hrid, hrown⟩ := hkept x hx
      exact ⟨r, hr, hrid, by rw [hrown, hown]⟩
  current y hy hactive := by
    rcases h.binding_cases hy with ⟨-, hnew, hsome⟩ | ⟨-, hy⟩
    · rw [hnew]
      exact hsome hactive
    · exact hs.current y hy hactive

lemma stays (h : Repoints s b new s') (hs : Pointed s) (hr : r ∈ s.revisions.rows)
    (hactive : r.state = .active) :
    (∃ r' ∈ s'.revisions.rows, r'.id = r.id ∧ r'.state = .active) ∨
      b.id = r.bindingId ∧ new ≠ some r.id := by
  obtain ⟨x, hx, hrx⟩ := h.mem_revision hr
  cases hrx with
  | activated => exact .inl ⟨_, hx, rfl, rfl⟩
  | retired hnew hold => exact .inr ⟨(hs.owned h.mem hr hold).symm, hnew⟩
  | kept => exact .inl ⟨r, hx, rfl, hactive⟩

end Repoints

@[simp] lemma observe_id : (Store.observe record r).id = r.id := by
  unfold Store.observe
  split_ifs <;> rfl

@[simp] lemma observe_bindingId : (Store.observe record r).bindingId = r.bindingId := by
  unfold Store.observe
  split_ifs <;> rfl

lemma observe_state : (Store.observe record r).state =
    if record.result = .passed then .tested
    else if r.state = .active ∧ record.result = .failedContract then .attention else r.state := by
  unfold Store.observe
  split_ifs <;> rfl

lemma revision_of_records {rows : List Revision}
    (hr : r ∈ Table.updated rows (·.id == record.bindingRevisionId) (Store.observe record)) :
    ∃ x ∈ rows, r.id = x.id ∧ r.bindingId = x.bindingId ∧
      (x.id = record.bindingRevisionId ∧ r.state = (Store.observe record x).state ∨
        x.id ≠ record.bindingRevisionId ∧ r = x) := by
  obtain ⟨x, hx, rfl⟩ := Table.mem_updated.mp hr
  by_cases hid : x.id = record.bindingRevisionId
  · exact ⟨x, hx, by simp [hid]⟩
  · exact ⟨x, hx, by simp [hid]⟩

lemma CallEffect.pointed {call : BindingCall} (h : CallEffect s call s') (hs : Pointed s) :
    Pointed s' := by
  cases h with
  | finds => exact hs
  | adds hrows hdraft =>
    refine ⟨fun r hr hactive => ?_, fun b hb id hpoint => ?_, hs.current⟩
    · rw [hrows, List.mem_append, List.mem_singleton] at hr
      rcases hr with hr | rfl
      · exact hs.owner r hr hactive
      · rw [hdraft] at hactive
        cases hactive
    · obtain ⟨r, hr, hown⟩ := hs.target b hb id hpoint
      exact ⟨r, hrows ▸ List.mem_append_left _ hr, hown⟩
  | @records record _ _ _ hrows =>
    refine ⟨fun r hr hactive => ?_, fun b hb id hpoint => ?_, hs.current⟩
    · obtain ⟨x, hx, hid, hown, hcase⟩ := revision_of_records (hrows ▸ hr)
      rw [hid, hown]
      refine hs.owner x hx ?_
      rcases hcase with ⟨-, hstate⟩ | ⟨-, rfl⟩
      · rw [observe_state] at hstate
        split_ifs at hstate
        · cases hstate.symm.trans hactive
        · cases hstate.symm.trans hactive
        · exact hstate.symm.trans hactive
      · exact hactive
    · obtain ⟨r, hr, rfl, hown⟩ := hs.target b hb id hpoint
      refine ⟨_, hrows ▸ Table.mem_updated.mpr ⟨r, hr, rfl⟩, ?_⟩
      split_ifs <;> simp [hown]
  | activates _ _ h | deactivates h => exact h.pointed hs

/-- The latest of the results of the revision that are `passed` or `failed_contract`. -/
def Store.verdict (s : Store) (revisionId : Nat) : Option TestOutcome :=
  ((s.results.rows.filter fun t =>
    t.bindingRevisionId = revisionId ∧ (t.result = .passed ∨ t.result = .failedContract)).getLast?).map
    (·.result)

lemma verdict_append (h : s'.results.rows = s.results.rows ++ [record]) :
    s'.verdict id = if record.bindingRevisionId = id ∧
        (record.result = .passed ∨ record.result = .failedContract) then some record.result
      else s.verdict id := by
  rw [Store.verdict, h, List.filter_append]
  split_ifs with hdecides
  · simp [hdecides]
  · simp [hdecides, Store.verdict]

/-- No test passes for the revision in use, and none fails the contract of a tested revision. -/
def ResultInTime (s : Store) (e : BindingRequest) : Prop :=
  ∀ record, e.call = .createTestResult record → ∀ r ∈ s.revisions.rows,
    r.id = record.bindingRevisionId →
      (record.result = .passed → r.state ≠ .active ∧ r.state ≠ .attention) ∧
        (record.result = .failedContract → r.state ≠ .tested)

structure Lifecycle (s : Store) : Prop extends Pointed s where
  serves : ∀ b ∈ s.bindings.rows, ∀ r ∈ s.revisions.rows, b.activeRevisionId = some r.id →
    r.state = .active ∨ r.state = .attention
  passed : ∀ r ∈ s.revisions.rows, r.state = .tested → s.verdict r.id = some .passed
  failed : ∀ r ∈ s.revisions.rows, r.state = .attention → s.verdict r.id = some .failedContract

lemma Repoints.lifecycle (h : Repoints s b new s') (hs : Lifecycle s) : Lifecycle s' := by
  refine ⟨h.pointed hs.toPointed, fun y hy r hr hpoint => ?_, fun r hr hstate => ?_,
    fun r hr hstate => ?_⟩ <;> obtain ⟨x, hx, hrx⟩ := h.revision_of_mem hr
  · rcases h.binding_cases hy with ⟨-, hnew, -⟩ | ⟨hne, hy⟩
    · cases hrx with
      | activated => exact .inl rfl
      | retired hother | kept hother => exact absurd (hnew.symm.trans hpoint) hother
    · -- The revision of another Binding is none of those that change.
      have hown : x.bindingId = y.id := hs.owned hy hx (by cases hrx <;> exact hpoint)
      cases hrx with
      | activated hnew =>
        obtain ⟨z, hz, hid, hzb⟩ := h.owned x.id hnew
        rw [revision_unique hz hx hid, hown] at hzb
        exact absurd hzb hne
      | retired _ hold => exact absurd (hown.symm.trans (hs.owned h.mem hx hold)) hne
      | kept => exact hs.serves y hy r hx hpoint
  all_goals
    rw [Store.verdict, h.results]
    cases hrx with
    | activated | retired => cases hstate
    | kept => first | exact hs.passed r hx hstate | exact hs.failed r hx hstate

lemma CallEffect.lifecycle {e : BindingRequest} (h : CallEffect s e.call s') (hs : Lifecycle s)
    (hok : ResultInTime s e) : Lifecycle s' := by
  have hpointed := h.pointed hs.toPointed
  unfold ResultInTime at hok
  generalize e.call = call at h hok
  cases h with
  | finds => exact hs
  | @adds _ _ _ _ _ _ _ revisions r hrows hdraft =>
    have hold : ∀ x ∈ revisions.rows, x ∈ s.revisions.rows ∨ x.state = .draft := by
      intro x hx
      rw [hrows, List.mem_append, List.mem_singleton] at hx
      exact hx.imp_right (by rintro rfl; exact hdraft)
    refine ⟨hpointed, fun b hb x hx hpoint => ?_, fun x hx hstate => ?_, fun x hx hstate => ?_⟩
    · -- The Binding points to a row that was there before.
      obtain ⟨y, hy, hid, -⟩ := hs.target b hb x.id hpoint
      have hyx : y = x := revision_unique (s := { s with revisions })
        (hrows ▸ List.mem_append_left _ hy) hx hid
      exact hs.serves b hb x (hyx ▸ hy) hpoint
    · exact hs.passed x ((hold x hx).resolve_right (by simp [hstate])) hstate
    · exact hs.failed x ((hold x hx).resolve_right (by simp [hstate])) hstate
  | @records record results revisions hresults hrows =>
    have hverdict : ∀ id, ({ s with results, revisions } : Store).verdict id = _ :=
      fun id => verdict_append hresults
    refine ⟨hpointed, fun b hb r hr hpoint => ?_, fun r hr hstate => ?_, fun r hr hstate => ?_⟩ <;>
      obtain ⟨x, hx, hid, -, hcase⟩ := revision_of_records (hrows ▸ hr)
    · have hserves := hs.serves b hb x hx (hid ▸ hpoint)
      rcases hcase with ⟨hrecord, hstate⟩ | ⟨-, rfl⟩
      · obtain ⟨hpassed, -⟩ := hok record rfl x hx hrecord
        rw [hstate, observe_state]
        grind
      · exact hserves
    all_goals
      rw [hverdict, hid]
      rcases hcase with ⟨hrecord, hobserved⟩ | ⟨hother, rfl⟩
      · have hin := hok record rfl x hx hrecord
        have hpassed := hs.passed x hx
        have hfailed := hs.failed x hx
        rw [hobserved, observe_state] at hstate
        grind
      · rw [if_neg (fun h => hother h.1.symm)]
        first | exact hs.passed r hx hstate | exact hs.failed r hx hstate
  | activates _ _ h | deactivates h => exact h.lifecycle hs

/-- The calls by which an active revision may leave that state. -/
def Ends (r : Revision) : BindingCall → Prop
  | .createRevision .. => False
  | .createTestResult record => record.bindingRevisionId = r.id ∧ record.result = .failedContract
  | .activateRevision _ bindingId revisionId => bindingId = r.bindingId ∧ revisionId ≠ r.id
  | .deactivate _ bindingId => bindingId = r.bindingId

lemma CallEffect.stays {e : BindingRequest} (h : CallEffect s e.call s') (hs : Pointed s)
    (hok : ResultInTime s e) (hr : r ∈ s.revisions.rows) (hactive : r.state = .active) :
    (∃ r' ∈ s'.revisions.rows, r'.id = r.id ∧ r'.state = .active) ∨ Ends r e.call := by
  unfold ResultInTime at hok
  generalize e.call = call at h hok
  cases h with
  | finds => exact .inl ⟨r, hr, rfl, hactive⟩
  | adds hrows => exact .inl ⟨r, hrows ▸ List.mem_append_left _ hr, rfl, hactive⟩
  | @records record _ _ _ hrows =>
    have hmem := hrows ▸ Table.mem_updated.mpr ⟨r, hr, rfl⟩
    by_cases hid : r.id = record.bindingRevisionId
    · by_cases hfailed : record.result = .failedContract
      · exact .inr ⟨hid.symm, hfailed⟩
      · have hpassed : record.result ≠ .passed := fun hp => ((hok record rfl r hr hid).1 hp).1 hactive
        exact .inl ⟨_, hmem, by simp [hid], by simp [hid, observe_state, hpassed, hfailed, hactive]⟩
    · exact .inl ⟨_, hmem, by simp [hid], by simp [hid, hactive]⟩
  | activates _ _ h =>
    exact (h.stays hs hr hactive).imp_right fun hends => ⟨hends.1, fun heq => hends.2 (heq ▸ rfl)⟩
  | deactivates h => exact (h.stays hs hr hactive).imp_right And.left

/-- An active Binding has an active revision, or one that needs attention. -/
def ServesPurpose (s : Store) : Prop :=
  ∀ b ∈ s.bindings.rows, b.state = .active → ∃ r ∈ s.revisions.rows,
    b.activeRevisionId = some r.id ∧ r.bindingId = b.id ∧
      (r.state = .active ∨ r.state = .attention ∧ s.verdict r.id = some .failedContract)

def OneActive (s : Store) : Prop :=
  ∀ r ∈ s.revisions.rows, ∀ r' ∈ s.revisions.rows, r.bindingId = r'.bindingId →
    r.state = .active → r'.state = .active → r = r'

structure StepAllowed (digestOf : Json → String) (s : Store) (e : BindingRequest) : Prop where
  leaves : ∀ r ∈ s.revisions.rows, r.state = .active →
    (∃ r' ∈ (bindingStep digestOf s e).1.revisions.rows, r'.id = r.id ∧ r'.state = .active) ∨
      Ends r e.call
  activates : ∀ env bindingId revisionId, e.call = .activateRevision env bindingId revisionId →
    (bindingStep digestOf s e).2 = .ok () → s.verdict revisionId = some .passed

structure Fresh (s : Store) : Prop where
  draft : ∀ b ∈ s.bindings.rows, b.state = .draft ∧ b.activeRevisionId = none
  revisions : s.revisions.rows = []
  results : s.results.rows = []

lemma Fresh.lifecycle (h : Fresh s) : Lifecycle s where
  owner := by simp [h.revisions]
  target b hb id hpoint := by simp [(h.draft b hb).2] at hpoint
  current b hb hactive := by simp [(h.draft b hb).1] at hactive
  serves := by simp [h.revisions]
  passed := by simp [h.revisions]
  failed := by simp [h.revisions]

lemma Lifecycle.servesPurpose (h : Lifecycle s) : ServesPurpose s := by
  intro b hb hactive
  obtain ⟨id, hid⟩ := Option.ne_none_iff_exists'.mp (h.current b hb hactive)
  obtain ⟨r, hr, rfl, hown⟩ := h.target b hb id hid
  exact ⟨r, hr, hid, hown, (h.serves b hb r hr hid).imp_right fun hr' => ⟨hr', h.failed r hr hr'⟩⟩

lemma bindingStep_lifecycle (s : Store) (e : BindingRequest) (hs : Lifecycle s)
    (hok : ResultInTime s e) : Lifecycle (bindingStep digestOf s e).1 := by
  rcases bindingStep_cases digestOf s e with ⟨hsame, -⟩ | h
  · rwa [hsame]
  · exact h.lifecycle hs hok

lemma Lifecycle.stepAllowed {e : BindingRequest} (hs : Lifecycle s) (hok : ResultInTime s e) :
    StepAllowed digestOf s e := by
  rcases bindingStep_cases digestOf s e with ⟨hsame, herror⟩ | h
  · refine ⟨fun r hr hactive => .inl ⟨r, ?_, rfl, hactive⟩, fun _ _ _ _ h => absurd h herror⟩
    rwa [hsame]
  · refine ⟨fun r hr hactive => h.stays hs.toPointed hok hr hactive, ?_⟩
    intro env bindingId revisionId hcall _
    rw [hcall] at h
    cases h with
    | activates hr htested => exact hs.passed _ hr htested

theorem binding_lifecycle (digestOf : Json → String) (s : Store) (hs : Fresh s)
    (es : List BindingRequest) :
    Always OneActive (bindingStep digestOf) s es ∧
      (RunOk ResultInTime (bindingStep digestOf) s es →
        Always ServesPurpose (bindingStep digestOf) s es ∧
          RunOk (StepAllowed digestOf) (bindingStep digestOf) s es) := by
  refine ⟨fun earlier _ _ => ?_, fun hok => ⟨fun earlier later hes => ?_, ?_⟩⟩
  · have hpointed : Pointed (final (bindingStep digestOf) s earlier) := by
      refine final_of_step (fun s e hs => ?_) hs.lifecycle.toPointed earlier
      rcases bindingStep_cases digestOf s e with ⟨hsame, -⟩ | h
      · rwa [hsame]
      · exact h.pointed hs
    exact fun r hr r' hr' => hpointed.single hr hr'
  · subst hes
    exact (final_invariant bindingStep_lifecycle hs.lifecycle (runOk_append.mp hok).1).servesPurpose
  · rw [runOk_iff] at hok ⊢
    intro earlier e later hes
    have hrun := runOk_append.mp (hes ▸ runOk_iff.mpr hok)
    exact (final_invariant bindingStep_lifecycle hs.lifecycle hrun.1).stepAllowed
      (hok earlier e later hes)

def sampleBindings : Store where
  bindings := ⟨[⟨1, 1, 1, "site-uuid", .posConfig, .posReceipt, true, .draft, none⟩], by decide⟩
  revisions := Table.empty
  results := Table.empty

def sampleCreate : BindingRequest where
  call := .createRevision ⟨false, true, true⟩ 1 ⟨5, "printer", 1, some "profile"⟩
    ⟨6, 5, "receipt_image"⟩ none none 1
  commits := true

def sampleResult (id : Nat) (result : TestOutcome) : BindingRequest :=
  ⟨.createTestResult ⟨id, 1, 1, result⟩, true⟩

def sampleActivate : BindingRequest := ⟨.activateRevision ⟨false, true, true⟩ 1 1, true⟩

def bindingsAfter (es : List BindingRequest) : Store :=
  final (bindingStep fun _ => "digest") sampleBindings es

def Store.states (s : Store) : List BindingState × List RevisionState × Option TestOutcome :=
  (s.bindings.rows.map (·.state), s.revisions.rows.map (·.state), s.verdict 1)

theorem binding_lifecycle_of_failed_contract :
    (bindingsAfter [sampleCreate, sampleResult 1 .passed, sampleActivate,
      sampleResult 2 .failedContract]).states = ([.active], [.attention], some .failedContract) ∧
      ServesPurpose (bindingsAfter [sampleCreate, sampleResult 1 .passed, sampleActivate,
        sampleResult 2 .failedContract]) := by
  refine ⟨by decide +kernel, ?_⟩
  have hrun := (binding_lifecycle (fun _ => "digest") sampleBindings ⟨by decide, rfl, rfl⟩
    [sampleCreate, sampleResult 1 .passed, sampleActivate, sampleResult 2 .failedContract]).2
  refine (hrun ⟨?_, ?_, ?_, ?_, trivial⟩).1 _ [] (List.append_nil _).symm
  all_goals rintro record ⟨rfl⟩
  all_goals decide +kernel

theorem results_break_lifecycle :
    (bindingsAfter [sampleCreate, sampleResult 1 .passed, sampleActivate,
      sampleResult 2 .passed]).states = ([.active], [.tested], some .passed) ∧
    (bindingsAfter [sampleCreate, sampleResult 1 .passed, sampleResult 2 .failedContract,
      sampleActivate]).states = ([.active], [.active], some .failedContract) := by
  decide +kernel

end Inari.Odoo
