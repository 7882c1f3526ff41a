import Inari.Proofs.InvitationThrottle
import Inari.Proofs.VerificationKeys

/-!
# The Device inventory of an Agent

The Device rows of an Agent are what the history of their changes makes of an empty map.
-/

namespace Inari.Controller

open Lib

abbrev Inventory := DeviceId → Option DeviceRecord

def inventoryOf (devices : Table deviceSpec) (agentId : AgentId) : Inventory := fun deviceId =>
  devices.first (fun d => d.agentId == agentId && d.deviceId == deviceId)

def InventoryItem.over (i : InventoryItem) (agentId : AgentId) (siteId : SiteId) (generatedAt : Instant)
    (known : Option DeviceRecord) : DeviceRecord :=
  { i.row agentId siteId generatedAt with
    firstSeenAt := (known.map (fun d => d.firstSeenAt)).getD generatedAt }

def projected (agentId : AgentId) (siteId : SiteId) (generatedAt : Instant) (items : List InventoryItem)
    (before : Inventory) : Inventory := fun deviceId =>
  (items.find? (fun i => i.deviceId == deviceId)).map
    (fun i => i.over agentId siteId generatedAt (before deviceId))

/-- What a transaction does to the inventory of an Agent, with the invitation of its enrollment. -/
inductive InventoryChange
  | enrolled (invitationId : String) (siteId : SiteId) (generatedAt : Instant)
      (items : List InventoryItem)
  | observed (invitationId : String) (siteId : SiteId) (generatedAt : Instant)
      (items : List InventoryItem)
  | retired
deriving DecidableEq

def InventoryChange.apply (agentId : AgentId) (before : Inventory) : InventoryChange → Inventory
  | .enrolled _ siteId generatedAt items =>
    projected agentId siteId generatedAt items (fun _ => none)
  | .observed _ siteId generatedAt items => projected agentId siteId generatedAt items before
  | .retired => fun _ => none

def InventoryChange.source : InventoryChange → Option (String × Instant)
  | .enrolled invitationId _ generatedAt _ | .observed invitationId _ generatedAt _ =>
    some (invitationId, generatedAt)
  | .retired => none

def inventoryAfter (agentId : AgentId) (changes : List InventoryChange) : Inventory :=
  changes.foldl (fun before c => c.apply agentId before) (fun _ => none)

def InventoryItem.conflicts (i : InventoryItem) (d : DeviceRecord) : Bool :=
  (d.deviceId == i.deviceId) != (d.identityDigest == i.identityDigest && d.kind == i.kind)

section Items

variable {devices devices' : Table deviceSpec} {agentId : AgentId} {siteId : SiteId}
  {generatedAt : Instant} {existing : List DeviceRecord} {i : InventoryItem}

lemma inventoryOf_eq_some {deviceId : DeviceId} {d : DeviceRecord} :
    inventoryOf devices agentId deviceId = some d ↔
      d ∈ devices.rows ∧ d.agentId = agentId ∧ d.deviceId = deviceId := by
  constructor
  · intro h
    obtain ⟨hmem, hd⟩ := Table.first_spec h
    simp only [Bool.and_eq_true, beq_iff_eq] at hd
    exact ⟨hmem, hd.1, hd.2⟩
  · rintro ⟨hmem, hagent, hdevice⟩
    refine Table.first_eq hmem (by simp [hagent, hdevice]) (fun b hb hmatch => ?_)
    simp only [Bool.and_eq_true, beq_iff_eq] at hmatch
    refine Table.eq_of_key devices (u := deviceKey) List.mem_cons_self hb hmem
      (k := (agentId, deviceId)) ?_ ?_
    · exact congrArg some (Prod.ext hmatch.1 hmatch.2)
    · exact congrArg some (Prod.ext hagent hdevice)

lemma inventoryOf_congr {a : AgentId} {id : DeviceId}
    (h : ∀ d : DeviceRecord, d.agentId = a → d.deviceId = id → (d ∈ devices'.rows ↔ d ∈ devices.rows)) :
    inventoryOf devices' a id = inventoryOf devices a id := by
  apply Option.ext
  intro d
  rw [inventoryOf_eq_some, inventoryOf_eq_some]
  constructor
  · rintro ⟨hmem, ha, hid⟩
    exact ⟨(h d ha hid).mp hmem, ha, hid⟩
  · rintro ⟨hmem, ha, hid⟩
    exact ⟨(h d ha hid).mpr hmem, ha, hid⟩

lemma applyItem_inventory (h : applyItem existing agentId siteId generatedAt devices i = .ok devices')
    (hexisting : ∀ d ∈ devices.rows, d.agentId = agentId → d.deviceId = i.deviceId → d ∈ existing)
    (a : AgentId) (id : DeviceId) :
    inventoryOf devices' a id = if a = agentId ∧ id = i.deviceId then
      some (i.over agentId siteId generatedAt (inventoryOf devices agentId id)) else
        inventoryOf devices a id := by
  simp only [applyItem, bind_ok, require_ok, Bool.not_eq_true', List.any_eq_false] at h
  obtain ⟨_, hsame, hwrite⟩ := h
  by_cases hkey : a = agentId ∧ id = i.deviceId
  · obtain ⟨rfl, rfl⟩ := hkey
    rw [if_pos ⟨rfl, rfl⟩, inventoryOf_eq_some, Table.mem_upsert hwrite]
    refine ⟨?_, rfl, rfl⟩
    cases hstored : inventoryOf devices a i.deviceId with
    | none =>
      refine .inr (.inr ⟨fun d hd => ?_, rfl⟩)
      rw [Bool.eq_false_iff]
      intro hmatch
      simp only [Bool.and_eq_true, beq_iff_eq] at hmatch
      rw [inventoryOf_eq_some.mpr ⟨hd, hmatch.1, hmatch.2⟩] at hstored
      cases hstored
    | some d =>
      obtain ⟨hd, hagent, hdevice⟩ := inventoryOf_eq_some.mp hstored
      refine .inr (.inl ⟨d, hd, by simp [hagent, hdevice], ?_⟩)
      -- the stored row passed the check of its identity
      have hidentity := hsame d (hexisting d hd hagent hdevice)
      rw [hdevice, beq_self_eq_true, bne_iff_ne, ne_eq, not_not, eq_comm, Bool.and_eq_true,
        beq_iff_eq, beq_iff_eq] at hidentity
      simp [InventoryItem.over, InventoryItem.row, hidentity.1, hidentity.2]
  · rw [if_neg hkey]
    refine inventoryOf_congr (fun d ha hid => ?_)
    have hother : (d.agentId == agentId && d.deviceId == i.deviceId) = false := by
      rw [Bool.eq_false_iff]
      intro hmatch
      simp only [Bool.and_eq_true, beq_iff_eq] at hmatch
      exact hkey ⟨ha.symm.trans hmatch.1, hid.symm.trans hmatch.2⟩
    rw [Table.mem_upsert hwrite]
    constructor
    · rintro (⟨hd, _⟩ | ⟨b, _, hb, rfl⟩ | ⟨_, rfl⟩)
      · exact hd
      · exact absurd ⟨ha.symm, hid.symm⟩ hkey
      · exact absurd ⟨ha.symm, hid.symm⟩ hkey
    · exact fun hd => .inl ⟨hd, hother⟩

variable {items : List InventoryItem}

lemma applyItems_inventory (hdistinct : items.Pairwise (fun i j => i.deviceId ≠ j.deviceId))
    (h : items.foldlM (applyItem existing agentId siteId generatedAt) devices = .ok devices')
    (hexisting : ∀ i ∈ items, ∀ d ∈ devices.rows, d.agentId = agentId → d.deviceId = i.deviceId →
      d ∈ existing) (a : AgentId) (id : DeviceId) :
    inventoryOf devices' a id = if a = agentId then
      (projected agentId siteId generatedAt items (inventoryOf devices agentId) id).or
        (inventoryOf devices agentId id) else inventoryOf devices a id := by
  induction items generalizing devices with
  | nil =>
    cases h
    by_cases ha : a = agentId
    · rw [if_pos ha, ha]
      rfl
    · rw [if_neg ha]
  | cons i items ih =>
    rw [List.foldlM_cons, bind_ok] at h
    obtain ⟨devices₁, hfirst, hrest⟩ := h
    obtain ⟨hhead, hdistinct⟩ := List.pairwise_cons.mp hdistinct
    have hstep := applyItem_inventory hfirst (hexisting i List.mem_cons_self)
    have hother : ∀ j ∈ items, inventoryOf devices₁ agentId j.deviceId =
        inventoryOf devices agentId j.deviceId := fun j hj => by
      rw [hstep, if_neg (fun hkey => hhead j hj hkey.2.symm)]
    rw [ih hdistinct hrest (fun j hj d hd hagent hid => ?_)]
    · by_cases ha : a = agentId
      · rw [if_pos ha, if_pos ha]
        by_cases hid : i.deviceId = id
        · have hnone : items.find? (fun j => j.deviceId == id) = none := by
            rw [List.find?_eq_none]
            intro j hj hjid
            exact hhead j hj (hid.trans (beq_iff_eq.mp hjid).symm)
          rw [projected, hnone, Option.map_none, Option.none_or, hstep, if_pos ⟨rfl, hid.symm⟩, projected,
            List.find?_cons_of_pos (by simp [hid]), Option.map_some, Option.some_or]
        · rw [projected, projected, List.find?_cons_of_neg (by simp [hid]), hstep,
            if_neg (fun hkey => hid hkey.2.symm)]
      · rw [if_neg ha, if_neg ha, hstep, if_neg (fun hkey => ha hkey.1)]
    · refine hexisting j (List.mem_cons_of_mem _ hj) d ?_ hagent hid
      have hlookup := inventoryOf_eq_some.mpr ⟨hd, hagent, hid⟩
      rw [hother j hj] at hlookup
      exact (inventoryOf_eq_some.mp hlookup).1

lemma applyInventory_inventory (hdistinct : items.Pairwise (fun i j => i.deviceId ≠ j.deviceId))
    (h : applyInventory devices items agentId siteId generatedAt = .ok devices') (a : AgentId) :
    inventoryOf devices' a = if a = agentId then
      projected agentId siteId generatedAt items (inventoryOf devices agentId) else
        inventoryOf devices a := by
  simp only [applyInventory, bind_ok, pure_ok] at h
  obtain ⟨devices₁, hitems, rfl⟩ := h
  have hwritten := applyItems_inventory hdistinct hitems (fun i _ d hd hagent _ =>
    List.mem_filter.mpr ⟨hd, beq_iff_eq.mpr hagent⟩)
  funext id
  by_cases ha : a = agentId
  · rw [if_pos ha]
    subst ha
    cases hfound : items.find? (fun i => i.deviceId == id) with
    | some i =>
      -- the row of an item is not withdrawn
      have hkept : inventoryOf (devices₁.delete (fun d => d.agentId == a &&
          !items.any (fun i => i.deviceId == d.deviceId))) a id = inventoryOf devices₁ a id := by
        refine inventoryOf_congr (fun d hagent hid => ?_)
        have hnamed : (i.deviceId == d.deviceId) = true := by
          rw [hid]
          exact @List.find?_some _ (fun i : InventoryItem => i.deviceId == id) i items hfound
        have hany : items.any (fun i => i.deviceId == d.deviceId) = true :=
          List.any_eq_true.mpr ⟨i, List.mem_of_find?_eq_some hfound, hnamed⟩
        rw [Table.delete_rows, List.mem_filter, hany]
        simp
      rw [hkept, hwritten, if_pos rfl, projected, hfound, Option.map_some, Option.some_or]
    | none =>
      rw [projected, hfound, Option.map_none, Option.eq_none_iff_forall_not_mem]
      intro d hd
      obtain ⟨hmem, hagent, hid⟩ := inventoryOf_eq_some.mp hd
      rw [Table.delete_rows, List.mem_filter] at hmem
      have hany : items.any (fun i => i.deviceId == d.deviceId) = false := by
        rw [List.any_eq_false, hid]
        exact fun i hi => List.find?_eq_none.mp hfound i hi
      simp [hagent, hany] at hmem
  · rw [if_neg ha, ← show _ = inventoryOf devices a id from (hwritten a id).trans (if_neg ha)]
    refine inventoryOf_congr (fun d hagent _ => ?_)
    rw [Table.delete_rows, List.mem_filter, hagent, beq_eq_false_iff_ne.mpr ha]
    simp

lemma applyInventory_agrees
    (h : applyInventory devices items agentId siteId generatedAt = .ok devices') :
    ∀ i ∈ items, ∀ d ∈ devices.rows, d.agentId = agentId → i.conflicts d = false := by
  intro i hi d hd hagent
  have hchecked : ∀ (items : List InventoryItem) (t t' : Table deviceSpec),
      items.foldlM (applyItem (devices.select (fun d => d.agentId == agentId)) agentId siteId
        generatedAt) t = .ok t' → i ∈ items → i.conflicts d = false := by
    intro items
    induction items with
    | nil => exact fun _ _ _ hi => absurd hi List.not_mem_nil
    | cons j items ih =>
      intro t t' h hi
      rw [List.foldlM_cons, bind_ok] at h
      obtain ⟨t₁, hfirst, hrest⟩ := h
      rcases List.mem_cons.mp hi with rfl | hi
      · simp only [applyItem, bind_ok, require_ok, Bool.not_eq_true', List.any_eq_false] at hfirst
        obtain ⟨_, hsame, _⟩ := hfirst
        rw [Bool.eq_false_iff]
        exact hsame d (List.mem_filter.mpr ⟨hd, beq_iff_eq.mpr hagent⟩)
      · exact ih t₁ t' hrest hi
  simp only [applyInventory, bind_ok, pure_ok] at h
  obtain ⟨t', hitems, _⟩ := h
  exact hchecked items devices t' hitems hi

end Items

/-! ## What `parse` accepts -/

variable {items : List InventoryItem}

lemma checkItems_distinct {tools : RegistryTools} {earlier : List InventoryItem}
    (h : checkItems tools earlier items = .ok ()) :
    items.Pairwise (fun i j => i.deviceId ≠ j.deviceId) ∧
      ∀ i ∈ items, ∀ e ∈ earlier, e.deviceId ≠ i.deviceId := by
  induction items generalizing earlier with
  | nil => exact ⟨.nil, by simp⟩
  | cons i items ih =>
    simp only [checkItems, bind_ok] at h
    obtain ⟨_, hcheck, hrest⟩ := h
    obtain ⟨hdistinct, hbefore⟩ := ih hrest
    simp only [InventoryItem.check, bind_ok, require_ok, List.all_eq_true, Bool.and_eq_true,
      bne_iff_ne] at hcheck
    obtain ⟨_, hnew, _⟩ := hcheck
    refine ⟨List.pairwise_cons.mpr ⟨fun j hj => hbefore j hj i List.mem_cons_self, hdistinct⟩, ?_⟩
    intro j hj e he
    rcases List.mem_cons.mp hj with rfl | hj
    · exact (hnew e he).1
    · exact hbefore j hj e (List.mem_cons_of_mem _ he)

lemma parseInventory_distinct {tools : RegistryTools} {inventory : StructuredFields}
    (h : parseInventory tools inventory = .ok items) :
    items.Pairwise (fun i j => i.deviceId ≠ j.deviceId) := by
  simp only [parseInventory, bind_ok, pure_ok] at h
  obtain ⟨_, _, _, _, _, hcheck, rfl⟩ := h
  exact (checkItems_distinct hcheck).1

def Registry.observes (tools : RegistryTools) (db : Registry) (agentId : AgentId)
    (snapshot : GatewaySnapshot) : Option InventoryChange :=
  match db.agents.first (fun a => a.agentId == agentId), db.boundInvitation agentId with
  | some agent, some i =>
    if appliesTo agent i snapshot then
      (parseInventory tools snapshot.inventory).toOption.map
        (fun items => .observed i.invitationId agent.siteId snapshot.generatedAt items)
    else none
  | _, _ => none

def RegistryEvent.inventoryChange (tools : RegistryTools) (db : Registry) :
    RegistryEvent → Option (AgentId × InventoryChange)
  | .enrollAgent code e snapshot limit prepare now later =>
    if db.enrolls tools code.id (.enrollAgent code e snapshot limit prepare now later) then
      (parseInventory tools snapshot.inventory).toOption.map
        (fun items => (e.agentId, .enrolled code.id e.siteId snapshot.generatedAt items))
    else none
  | .retireAgentCredentials organizationId agentId audit now =>
    if (db.retireAgentCredentials organizationId agentId audit now).isOk then
      some (agentId, .retired)
    else none
  | .statusSnapshot agentId snapshot now =>
    if (db.applySnapshot tools agentId snapshot now).isOk then
      (db.observes tools agentId snapshot).map (fun c => (agentId, c))
    else none
  | _ => none

def changesFor (agentId : AgentId) : Option (AgentId × InventoryChange) → List InventoryChange
  | some (a, c) => if a = agentId then [c] else []
  | none => []

def InventoryStep (db db' : Registry) (change : Option (AgentId × InventoryChange)) : Prop :=
  ∀ a, inventoryOf db'.devices a =
    (changesFor a change).foldl (fun before c => c.apply a before) (inventoryOf db.devices a)

section Transactions

variable {tools : RegistryTools} {db db' : Registry}

lemma InventoryStep.same (h : db'.devices = db.devices) : InventoryStep db db' none := by
  intro a
  rw [h]
  rfl

lemma InventoryStep.one {agentId : AgentId} {c : InventoryChange}
    (h : ∀ a, inventoryOf db'.devices a = if a = agentId then
      c.apply agentId (inventoryOf db.devices agentId) else inventoryOf db.devices a) :
    InventoryStep db db' (some (agentId, c)) := by
  intro a
  by_cases ha : a = agentId
  · subst ha
    rw [h, if_pos rfl, changesFor, if_pos rfl]
    rfl
  · rw [h, if_neg ha, changesFor, if_neg (fun h => ha h.symm)]
    rfl

lemma inventoryOf_delete {devices : Table deviceSpec} {agentId a : AgentId} :
    inventoryOf (devices.delete (fun d => d.agentId == agentId)) a =
      if a = agentId then fun _ => none else inventoryOf devices a := by
  funext id
  by_cases ha : a = agentId
  · rw [if_pos ha, Option.eq_none_iff_forall_not_mem]
    intro d hd
    obtain ⟨hmem, hagent, _⟩ := inventoryOf_eq_some.mp hd
    simp [hagent, ha] at hmem
  · rw [if_neg ha]
    refine inventoryOf_congr (fun d hagent _ => ?_)
    simp [hagent, ha]

end Transactions

structure InvitationRow.Grows (i i' : InvitationRow) : Prop where
  id : i'.invitationId = i.invitationId
  used : i.state ≠ .created → i'.state ≠ .created
  latest : i.state ≠ .created → ∀ s, i.latestSnapshot = some s →
    ∃ s', i'.latestSnapshot = some s' ∧ s.generatedAt ≤ s'.generatedAt

def Registry.HasSnapshot (db : Registry) (invitationId : String) (t : Instant) : Prop :=
  ∃ i ∈ db.invitations.rows, i.invitationId = invitationId ∧ i.state ≠ .created ∧
    ∃ s, i.latestSnapshot = some s ∧ t ≤ s.generatedAt

/-- Invitations in use keep a snapshot that is as new, and an applied one is newer. -/
structure SnapshotStep (db db' : Registry) (change : Option (AgentId × InventoryChange)) : Prop where
  grows : ∀ i ∈ db.invitations.rows, ∃ i' ∈ db'.invitations.rows, i.Grows i'
  newer : ∀ a c id t, change = some (a, c) → c.source = some (id, t) →
    ∀ t', db.HasSnapshot id t' → t' < t
  applied : ∀ a c id t, change = some (a, c) → c.source = some (id, t) → db'.HasSnapshot id t

def InvitationsGrow (db db' : Registry) : Prop :=
  ∀ i ∈ db.invitations.rows, ∃ i' ∈ db'.invitations.rows, i.Grows i'

section Snapshots

variable {tools : RegistryTools} {db db' db'' : Registry}

lemma InvitationRow.Grows.refl (i : InvitationRow) : i.Grows i :=
  ⟨rfl, fun h => h, fun _ s hs => ⟨s, hs, le_rfl⟩⟩

lemma InvitationRow.Grows.trans {i i' i'' : InvitationRow} (h : i.Grows i') (h' : i'.Grows i'') :
    i.Grows i'' where
  id := h'.id.trans h.id
  used := fun hstate => h'.used (h.used hstate)
  latest := fun hstate s hs => by
    obtain ⟨s', hs', hle⟩ := h.latest hstate s hs
    obtain ⟨s'', hs'', hle'⟩ := h'.latest (h.used hstate) s' hs'
    exact ⟨s'', hs'', hle.trans hle'⟩

lemma Registry.HasSnapshot.step {id : String} {t : Instant}
    (hgrows : InvitationsGrow db db') (h : db.HasSnapshot id t) : db'.HasSnapshot id t := by
  obtain ⟨i, hi, hid, hstate, s, hs, hle⟩ := h
  obtain ⟨i', hi', hgrow⟩ := hgrows i hi
  obtain ⟨s', hs', hle'⟩ := hgrow.latest hstate s hs
  exact ⟨i', hi', hgrow.id.trans hid, hgrow.used hstate, s', hs', hle.trans hle'⟩

lemma SnapshotStep.none (h : InvitationsGrow db db') : SnapshotStep db db' Option.none :=
  ⟨h, fun _ _ _ _ hchange => (nomatch hchange), fun _ _ _ _ hchange => (nomatch hchange)⟩

lemma grows_same (h : db'.invitations = db.invitations) : InvitationsGrow db db' := by
  rw [InvitationsGrow, h]
  exact fun i hi => ⟨i, hi, .refl i⟩

lemma grows_updated {p : InvitationRow → Bool} {f : InvitationRow → InvitationRow}
    (hrows : db'.invitations.rows = Table.updated db.invitations.rows p f)
    (hf : ∀ i ∈ db.invitations.rows, p i = true → i.Grows (f i)) : InvitationsGrow db db' := by
  intro i hi
  exact Table.exists_updated hrows hi (fun _ => .refl i) (hf i hi)

lemma grows_state {i : InvitationRow} {state : InvitationState} {revokedAt : Option Instant}
    (h : state ≠ .created) : i.Grows { i with state := state, revokedAt := revokedAt } :=
  ⟨rfl, fun _ => h, fun _ s hs => ⟨s, hs, le_rfl⟩⟩

structure ChangeStep (db db' : Registry) (change : Option (AgentId × InventoryChange)) : Prop where
  inventory : InventoryStep db db' change
  snapshots : SnapshotStep db db' change
  agrees : ∀ a id site t items, change = some (a, .observed id site t items) →
    ∀ i ∈ items, ∀ d ∈ db.devices.rows, d.agentId = a → i.conflicts d = false

lemma ChangeStep.none (hdevices : db'.devices = db.devices)
    (hgrows : InvitationsGrow db db') : ChangeStep db db' Option.none :=
  ⟨.same hdevices, .none hgrows, fun _ _ _ _ _ hchange => (nomatch hchange)⟩

lemma grows_closed (h : Moves (Relation.ReflTransGen Registry.CloseMove)
    (fun i => i.boundAgentId = Option.none) db.invitations.rows db'.invitations.rows) :
    InvitationsGrow db db' := by
  intro i hi
  obtain ⟨i', hi', hmoves⟩ := h.forward hi
  refine ⟨i', hi', ?_⟩
  clear hi'
  induction hmoves with
  | refl => exact .refl i
  | tail _ hmove ih =>
    refine ih.trans ?_
    cases hmove with
    | expired | revoked => exact grows_state (by decide)

variable {now : Instant}

lemma applySnapshot_changes {agentId : AgentId} {snapshot : GatewaySnapshot}
    (h : db.applySnapshot tools agentId snapshot now = .ok db') :
    ChangeStep db db' ((db.observes tools agentId snapshot).map (fun c => (agentId, c))) := by
  rcases Registry.applySnapshot_cases h with ⟨rfl, hnone⟩ |
    ⟨items, agent, i, hitems, hagent, hbound, happlies, hdevices, hrows, -⟩
  · have hobserves : db'.observes tools agentId snapshot = Option.none := by
      unfold Registry.observes
      split
      · rw [if_neg (hnone _ _ ‹_› ‹_›)]
      · rfl
    rw [hobserves]
    exact .none rfl (grows_same rfl)
  · have hobserves : db.observes tools agentId snapshot =
        some (.observed i.invitationId agent.siteId snapshot.generatedAt items) := by
      simp only [Registry.observes, hagent, hbound, happlies, if_true, hitems, Except.toOption,
        Option.map_some]
    have hbound' := hbound
    simp only [Registry.boundInvitation, bind, Option.bind_eq_some_iff] at hbound'
    obtain ⟨_, _, hfirst⟩ := hbound'
    have hi := (Table.first_spec hfirst).1
    have hnew : ∀ s, i.latestSnapshot = some s → s.generatedAt < snapshot.generatedAt := by
      intro s hs
      simp only [Registry.appliesTo, Bool.and_eq_true, hs, Option.all_some, decide_eq_true_eq]
        at happlies
      exact happlies.2
    rw [hobserves]
    refine ⟨.one (applyInventory_inventory (parseInventory_distinct hitems) hdevices),
      ⟨grows_updated hrows (fun j hj hp => ?_), ?_, ?_⟩, ?_⟩
    · obtain rfl := invitation_unique hj hi (beq_iff_eq.mp hp)
      exact ⟨rfl, by rintro _ ⟨⟩, fun _ s hs => ⟨snapshot, rfl, (hnew s hs).le⟩⟩
    · rintro a c id t ⟨⟩ ⟨⟩ t' ⟨j, hj, hid, _, s, hs, hle⟩
      obtain rfl := invitation_unique hj hi hid
      exact hle.trans_lt (hnew s hs)
    · rintro a c id t ⟨⟩ ⟨⟩
      exact ⟨_, Table.mem_written hrows hi (beq_self_eq_true _), rfl, by simp, snapshot, rfl, le_rfl⟩
    · rintro a id site t items' ⟨⟩
      exact applyInventory_agrees hdevices

lemma persistEnrollment_changes {e : AgentEnrollmentRecord} {snapshot : GatewaySnapshot}
    {fingerprint : Bytes} {i : InvitationRow} (hi : i ∈ db.invitations.rows)
    (hcreated : i.state = .created)
    (h : db.persistEnrollment tools i e snapshot fingerprint now = .ok db') :
    ChangeStep db db' ((parseInventory tools snapshot.inventory).toOption.map
      (fun items => (e.agentId, .enrolled i.invitationId e.siteId snapshot.generatedAt items))) := by
  obtain ⟨⟨items, hitems, hdevices⟩, _, _, _, hrows⟩ := Registry.persistEnrollment_writes h
  rw [hitems]
  refine ⟨.one (fun a => ?_), ⟨grows_updated hrows (fun j hj hp => ?_), ?_, ?_⟩, ?_⟩
  · rw [applyInventory_inventory (parseInventory_distinct hitems) hdevices, inventoryOf_delete,
      inventoryOf_delete, if_pos rfl]
    by_cases ha : a = e.agentId
    · rw [if_pos ha, if_pos ha]
      rfl
    · rw [if_neg ha, if_neg ha, if_neg ha]
  · obtain rfl := invitation_unique hj hi (beq_iff_eq.mp hp)
    exact ⟨rfl, fun h => absurd hcreated h, fun h => absurd hcreated h⟩
  · rintro a c id t ⟨⟩ ⟨⟩ t' ⟨j, hj, hjid, hused, _⟩
    obtain rfl := invitation_unique hj hi hjid
    exact absurd hcreated hused
  · rintro a c id t ⟨⟩ ⟨⟩
    exact ⟨_, Table.mem_written hrows hi (beq_self_eq_true _), rfl, by simp [InvitationRow.bound],
      snapshot, rfl, le_rfl⟩
  · rintro a id site t items' ⟨⟩

lemma enrollAgent_changes (code : InvitationCode) (e : AgentEnrollmentRecord)
    (snapshot : GatewaySnapshot) (limit : InvitationAttemptLimit) (prepare : Except Error Unit)
    (now later : Instant) :
    ChangeStep db (db.enrollAgent tools code e snapshot limit prepare now later).1
      (RegistryEvent.inventoryChange tools db
        (.enrollAgent code e snapshot limit prepare now later)) := by
  have hcall := Registry.enrollAgent_cases tools db code e snapshot limit prepare now later
  rw [RegistryEvent.inventoryChange, Registry.enrolls]
  generalize db.enrollAgent tools code e snapshot limit prepare now later = result at hcall
  cases hcall with
  | failed | rejected =>
    simp only [Except.isOk, Except.toBool, Bool.and_false, Bool.false_and, Bool.false_eq_true, if_false]
    exact .none rfl (grows_same rfl)
  | replayed i value enrolledAt hi hid hstate =>
    have hused : db.invitations.rows.any
        (fun j => j.invitationId == code.id && j.state == .created) = false := by
      rw [List.any_eq_false]
      intro j hj hmatch
      rw [Bool.and_eq_true, beq_iff_eq, beq_iff_eq] at hmatch
      rw [invitation_unique hj hi (hmatch.1.trans hid.symm), hstate] at hmatch
      cases hmatch.2
    simp only [hused, Bool.and_false, Bool.false_eq_true, if_false]
    exact .none rfl (grows_same rfl)
  | enrolled i db' value hi hid hstate hexpires hpersist =>
    have hopen : db.invitations.rows.any
        (fun j => j.invitationId == code.id && j.state == .created) = true :=
      List.any_eq_true.mpr ⟨i, hi, by simp [hid, hstate]⟩
    simp only [hopen, beq_self_eq_true, Except.isOk, Except.toBool, Bool.and_self, if_true]
    rw [← hid]
    -- the attempts that the call forgets are of no account here
    obtain ⟨hinventory, ⟨hgrows, hnewer, happlied⟩, hagrees⟩ :=
      persistEnrollment_changes (show i ∈ (db.withoutStale code now limit.window).invitations.rows
        from hi) hstate hpersist
    exact ⟨hinventory, ⟨hgrows, hnewer, happlied⟩, hagrees⟩

lemma ChangeStep.committed {result : Except Error Registry}
    {change : Option (AgentId × InventoryChange)}
    (hok : ∀ db', result = .ok db' → ChangeStep db db' change)
    (herror : ∀ e, result = .error e → change = Option.none) :
    ChangeStep db (Controller.committed db result) change := by
  cases result with
  | ok db' => exact hok db' rfl
  | error e =>
    rw [herror e rfl]
    exact .none rfl (grows_same rfl)

theorem apply_change (tools : RegistryTools) (db : Registry) (event : RegistryEvent) :
    ChangeStep db (event.apply tools db) (event.inventoryChange tools db) := by
  cases event with
  | enrollAgent code e snapshot limit prepare now later =>
    exact enrollAgent_changes code e snapshot limit prepare now later
  | retireAgentCredentials =>
    rw [RegistryEvent.inventoryChange]
    refine .committed (fun db' h => ?_) (fun e h => ?_)
    · simp only [h, Except.isOk, Except.toBool, if_true]
      obtain ⟨_, hrows, _, hdevices⟩ := Registry.retireAgentCredentials_ok h
      refine ⟨.one (fun a => by rw [hdevices]; exact inventoryOf_delete),
        ⟨grows_updated hrows (fun i _ _ => grows_state (by decide)), ?_, ?_⟩, ?_⟩
      · rintro a c id t ⟨⟩ ⟨⟩
      · rintro a c id t ⟨⟩ ⟨⟩
      · rintro a id site t items ⟨⟩
    · simp only [h, Except.isOk, Except.toBool, Bool.false_eq_true, if_false]
  | statusSnapshot =>
    rw [RegistryEvent.inventoryChange]
    refine .committed (fun db' h => ?_) (fun e h => ?_)
    · simp only [h, Except.isOk, Except.toBool, if_true]
      exact applySnapshot_changes h
    · simp only [h, Except.isOk, Except.toBool, Bool.false_eq_true, if_false]
  | _ =>
    exact .none (Registry.apply_closes rfl).devices (grows_closed (Registry.apply_closes rfl).moves)

end Snapshots

def World.publicationChange (tools : WorldTools) (w : World) (fleet : Fleet) (agentId : AgentId)
    (key : String) (message : AgentPublication) (now : Instant) : Option (AgentId × InventoryChange) :=
  if (w.recordPublication tools fleet agentId key message now).isOk then
    match message.snapshot,
      w.db.publications.first (fun p => p.messageId == message.messageId) with
    | some fields, none =>
      (w.registry.observes tools.registry agentId (tools.registry.readSnapshot fields)).map
        (fun c => (agentId, c))
    | _, _ => none
  else none

def World.inventoryChange (tools : WorldTools) (w : World) :
    WorldEvent → Option (AgentId × InventoryChange)
  | .registry event => event.inventoryChange tools.registry w.registry
  | .request (.publication fleet agentId key message _ now) =>
    w.publicationChange tools fleet agentId key message now
  | .request _ => none

def inventoryHistory (tools : WorldTools) (agentId : AgentId) :
    World → List WorldEvent → List InventoryChange
  | _, [] => []
  | w, event :: rest =>
    changesFor agentId (w.inventoryChange tools event) ++
      inventoryHistory tools agentId (w.next tools event) rest

def InventoryChange.Precedes (x y : InventoryChange) : Prop :=
  ∀ id t t', x.source = some (id, t) → y.source = some (id, t') → t < t'

lemma publication_change (tools : WorldTools) (w : World) (fleet : Fleet) (agentId : AgentId)
    (key : String) (message : AgentPublication) (now : Instant) :
    ChangeStep w.registry
      (committed w (w.recordPublication tools fleet agentId key message now)).registry
      (w.publicationChange tools fleet agentId key message now) := by
  unfold World.publicationChange
  cases h : w.recordPublication tools fleet agentId key message now with
  | error =>
    simp only [Except.isOk, Except.toBool, Bool.false_eq_true, if_false]
    exact .none rfl (grows_same rfl)
  | ok =>
    simp only [Except.isOk, Except.toBool, if_true]
    simp only [World.recordPublication, bind_ok, pure_ok] at h
    obtain ⟨db, _, registry, hregistry, rfl⟩ := h
    unfold World.projectSnapshot at hregistry
    cases hfields : message.snapshot with
    | none =>
      simp only [hfields] at hregistry
      cases hregistry
      exact .none rfl (grows_same rfl)
    | some =>
      cases hnew : w.db.publications.first (fun p => p.messageId == message.messageId) with
      | none =>
        simp only [hfields, hnew] at hregistry
        exact applySnapshot_changes hregistry
      | some =>
        simp only [hfields, hnew] at hregistry
        cases hregistry
        exact .none rfl (grows_same rfl)

theorem next_change (tools : WorldTools) (w : World) (event : WorldEvent) :
    ChangeStep w.registry (w.next tools event).registry (w.inventoryChange tools event) := by
  cases event with
  | registry event => exact apply_change tools.registry w.registry event
  | request event =>
    cases event with
    | publication fleet agentId key message inventoryOk now =>
      exact publication_change tools w fleet agentId key message now
    | _ => exact .none rfl (grows_same rfl)

section Runs

variable {tools : WorldTools}

lemma inventory_history (agentId : AgentId) (w : World) (events : List WorldEvent) :
    inventoryOf (final (World.step tools) w events).registry.devices agentId =
      (inventoryHistory tools agentId w events).foldl (fun before c => c.apply agentId before)
        (inventoryOf w.registry.devices agentId) := by
  induction events generalizing w with
  | nil => rfl
  | cons event rest ih =>
    rw [inventoryHistory, List.foldl_append, ← (next_change tools w event).inventory agentId]
    exact ih (w.next tools event)

lemma history_increases (agentId : AgentId) (w : World) (events : List WorldEvent) :
    (inventoryHistory tools agentId w events).Pairwise InventoryChange.Precedes ∧
      ∀ c ∈ inventoryHistory tools agentId w events, ∀ id t, c.source = some (id, t) →
        ∀ t', w.registry.HasSnapshot id t' → t' < t := by
  induction events generalizing w with
  | nil => exact ⟨.nil, fun c hc => absurd hc List.not_mem_nil⟩
  | cons event rest ih =>
    have hstep := (next_change tools w event).snapshots
    obtain ⟨hrest, hnewer⟩ := ih (w.next tools event)
    have hmine : ∀ c ∈ changesFor agentId (w.inventoryChange tools event),
        w.inventoryChange tools event = some (agentId, c) := by
      intro c hc
      unfold changesFor at hc
      split at hc
      · rename_i a c' hchange
        split_ifs at hc with ha
        · rw [List.mem_singleton] at hc
          rw [hchange, ha, hc]
        · cases hc
      · cases hc
    rw [inventoryHistory]
    refine ⟨List.pairwise_append.mpr ⟨?_, hrest, fun x hx y hy id t t' hxs hys => ?_⟩, ?_⟩
    · unfold changesFor
      split
      · split_ifs
        · exact List.pairwise_singleton _ _
        · exact .nil
      · exact .nil
    · exact hnewer y hy id t' hys t (hstep.applied _ _ _ _ (hmine x hx) hxs)
    · intro c hc id t hsource t' hold
      rcases List.mem_append.mp hc with hc | hc
      · exact hstep.newer _ _ _ _ (hmine c hc) hsource t' hold
      · exact hnewer c hc id t hsource t' (hold.step hstep.grows)

end Runs

lemma publication_rejected {tools : WorldTools} {w : World} {fleet : Fleet} {agentId : AgentId}
    {key : String} {message : AgentPublication} {now : Instant} {fields : StructuredFields}
    {id : String} {site : SiteId} {t : Instant} (hfields : message.snapshot = some fields)
    (hnew : w.db.publications.first (fun p => p.messageId == message.messageId) = none)
    (hobserves : w.registry.observes tools.registry agentId (tools.registry.readSnapshot fields) =
      some (.observed id site t items)) {i : InventoryItem} (hi : i ∈ items) {d : DeviceRecord}
    (hd : d ∈ w.registry.devices.rows) (hagent : d.agentId = agentId)
    (hconflict : i.conflicts d = true) :
    committed w (w.recordPublication tools fleet agentId key message now) = w := by
  cases h : w.recordPublication tools fleet agentId key message now with
  | error => rfl
  | ok =>
    have hchange : w.publicationChange tools fleet agentId key message now =
        some (agentId, .observed id site t items) := by
      simp only [World.publicationChange, h, Except.isOk, Except.toBool, if_true, hfields, hnew,
        hobserves, Option.map_some]
    have hagrees := (publication_change tools w fleet agentId key message now).agrees
      _ _ _ _ _ hchange i hi d hd hagent
    rw [hconflict] at hagrees
    cases hagrees

/-- The Device rows are what the applied snapshots make of them, in the order of their times, and a
snapshot that conflicts with a row is refused. -/
theorem inventory_projection (tools : WorldTools) (events : List WorldEvent) :
    let w := worldAfter tools events
    (∀ d : DeviceRecord, d ∈ w.registry.devices.rows ↔ inventoryAfter d.agentId
      (inventoryHistory tools d.agentId {} events) d.deviceId = some d) ∧
    (∀ agentId, (inventoryHistory tools agentId {} events).Pairwise InventoryChange.Precedes) ∧
    (∀ event, ∀ d ∈ w.registry.devices.rows, ∀ d' ∈ (w.next tools event).registry.devices.rows,
      d'.agentId = d.agentId → d'.deviceId = d.deviceId →
      (∀ id site t items,
        w.inventoryChange tools event ≠ some (d.agentId, .enrolled id site t items)) →
      d'.kind = d.kind ∧ d'.identityDigest = d.identityDigest ∧ d'.firstSeenAt = d.firstSeenAt) ∧
    (∀ event (d : DeviceRecord), (∀ c, w.inventoryChange tools event ≠ some (d.agentId, c)) →
      (d ∈ (w.next tools event).registry.devices.rows ↔ d ∈ w.registry.devices.rows)) ∧
    ∀ fleet agentId key message inventoryOk now fields id site t items,
      message.snapshot = some fields →
      w.db.publications.first (fun p => p.messageId == message.messageId) = none →
      w.registry.observes tools.registry agentId (tools.registry.readSnapshot fields) =
        some (.observed id site t items) →
      (∃ i ∈ items, ∃ d ∈ w.registry.devices.rows, d.agentId = agentId ∧ i.conflicts d = true) →
      w.next tools (.request (.publication fleet agentId key message inventoryOk now)) = w := by
  intro w
  have hrows : ∀ (devices : Table deviceSpec) (d : DeviceRecord),
      d ∈ devices.rows ↔ inventoryOf devices d.agentId d.deviceId = some d := fun devices d => by
    rw [inventoryOf_eq_some]
    exact ⟨fun h => ⟨h, rfl, rfl⟩, fun h => h.1⟩
  refine ⟨fun d => ?_, fun agentId => (history_increases agentId {} events).1, ?_, ?_, ?_⟩
  · have hafter : inventoryOf w.registry.devices d.agentId =
        inventoryAfter d.agentId (inventoryHistory tools d.agentId {} events) :=
      inventory_history d.agentId {} events
    rw [hrows, hafter]
  · intro event d hd d' hd' hagent hdevice henrolled
    have hstep := next_change tools w event
    rw [hrows, hagent, hdevice, hstep.inventory d.agentId] at hd'
    rw [hrows] at hd
    generalize hchange : w.inventoryChange tools event = change at hd' henrolled hstep
    unfold changesFor at hd'
    split at hd'
    · rename_i a c
      split_ifs at hd' with ha
      · subst ha
        cases c with
        | enrolled id site t items => exact absurd rfl (henrolled id site t items)
        | retired => cases hd'
        | observed id site t items =>
          change projected d.agentId site t items _ d.deviceId = some d' at hd'
          rw [projected, Option.map_eq_some_iff] at hd'
          obtain ⟨i, hfound, rfl⟩ := hd'
          have hid : i.deviceId = d.deviceId := beq_iff_eq.mp
            (@List.find?_some _ (fun i : InventoryItem => i.deviceId == d.deviceId) i items hfound)
          have hagrees := hstep.agrees _ _ _ _ _ rfl i (List.mem_of_find?_eq_some hfound) d
            ((hrows _ _).mpr hd) rfl
          rw [InventoryItem.conflicts, hid, beq_self_eq_true, bne_eq_false_iff_eq, eq_comm,
            Bool.and_eq_true, beq_iff_eq, beq_iff_eq] at hagrees
          refine ⟨hagrees.2.symm, hagrees.1.symm, ?_⟩
          rw [InventoryItem.over, hd]
          rfl
      · obtain rfl := Option.some.inj (hd.symm.trans hd')
        exact ⟨rfl, rfl, rfl⟩
    · obtain rfl := Option.some.inj (hd.symm.trans hd')
      exact ⟨rfl, rfl, rfl⟩
  · intro event d hother
    have hnone : changesFor d.agentId (w.inventoryChange tools event) = [] := by
      unfold changesFor
      split
      · rename_i a c hchange
        rw [if_neg]
        rintro rfl
        exact hother c hchange
      · rfl
    rw [hrows, hrows, (next_change tools w event).inventory d.agentId, hnone]
    rfl
  · rintro fleet agentId key message inventoryOk now fields id site t items hfields hnew hobserves
      ⟨i, hi, d, hd, hagent, hconflict⟩
    exact publication_rejected hfields hnew hobserves hi hd hagent hconflict

def inventoryPrinter (digit : Char) : InventoryItem where
  deviceId := sampleDevice
  kind := .printer
  deviceClass := .physical
  displayName := "Front printer"
  systemName := "front"
  driverKey := "driver"
  online := true
  transport := .usb
  identityDigest := String.ofList (List.replicate 64 digit)
  capabilities := []
  metadata := []

def inventoryTools : WorldTools where
  registry := { onboardingTools with
    readInventory := fun fields => some [inventoryPrinter (if fields.isEmpty then '0' else '1')]
    readSnapshot := fun fields => ⟨30, fields, []⟩ }
  service := twinTools

def secondCode : InvitationCode := ⟨"CCCCCCCCCCCC", "CCCCCCCCCCCCCCCCCCCCCCCCCCCCCCCC"⟩

def firstEnrollment : List WorldEvent :=
  [.registry newInvitation,
    .registry (.enrollAgent invitationCode sampleEnrollment ⟨20, [], []⟩ attemptLimit (.ok ()) 0 0)]

def secondEnrollment : List WorldEvent :=
  firstEnrollment ++
  [.registry (.createInvitation secondCode sampleScope.organizationId sampleScope.siteId none 0
      86400000000 ⟨"user:operator", none⟩),
    .registry (.enrollAgent secondCode sampleEnrollment ⟨10, [("a", .null)], []⟩ attemptLimit (.ok ())
      1 1)]

theorem changed_identity_refused :
    let w := worldAfter inventoryTools firstEnrollment
    w.registry.devices.rows = [(inventoryPrinter '0').row sampleAgent sampleScope.siteId 20] ∧
    w.next inventoryTools (.request (.publication twinFleet sampleAgent "state"
      (.statusSnapshot "msg_1" [("a", .null)]) true 2)) = w := by
  intro w
  have hrows : w.registry.devices.rows =
      [(inventoryPrinter '0').row sampleAgent sampleScope.siteId 20] := by decide +kernel
  refine ⟨hrows, (inventory_projection inventoryTools firstEnrollment).2.2.2.2 twinFleet sampleAgent
    "state" (.statusSnapshot "msg_1" [("a", .null)]) true 2 [("a", .null)] invitationCode.id
    sampleScope.siteId 30 [inventoryPrinter '1'] rfl (by decide +kernel) (by decide +kernel)
    ⟨inventoryPrinter '1', List.mem_cons_self,
      (inventoryPrinter '0').row sampleAgent sampleScope.siteId 20, ?_, rfl, by decide +kernel⟩⟩
  rw [hrows]
  exact List.mem_cons_self

/-- The second enrollment applies an older snapshot that conflicts with the stored row. -/
theorem second_enrollment_replaces :
    (inventoryHistory inventoryTools sampleAgent {} secondEnrollment).map InventoryChange.source =
      [some (invitationCode.id, 20), some (secondCode.id, 10)] ∧
    (inventoryPrinter '1').conflicts ((inventoryPrinter '0').row sampleAgent sampleScope.siteId 20) =
      true ∧
    (worldAfter inventoryTools secondEnrollment).registry.devices.rows =
      [(inventoryPrinter '1').row sampleAgent sampleScope.siteId 10] := by
  decide +kernel

end Inari.Controller
