import Inari.Router.AccessControl

/-!
# Agents of a Router fleet are isolated

The names that validation accepts are distinct and contain no wildcards and no slashes. So an Agent
has what the rules list, in its own namespace, and that covers all that its session uses.
-/

namespace Inari.Router

open Lib

variable {policy : Policy} {agent : AgentAdmission}

lemma literalChar_spec {c : Char} (h : literalChar c = true) : c ≠ '*' ∧ c ≠ '$' ∧ c ≠ '/' := by
  refine ⟨?_, ?_, ?_⟩ <;> rintro rfl <;> revert h <;> decide

variable {value : String}

lemma literalName_literal (h : literalName value = true) : LiteralChunk value.toList := by
  simp only [literalName, Bool.and_eq_true, List.all_eq_true] at h
  intro c hc
  have hspec := literalChar_spec (h.2 c hc)
  exact ⟨hspec.1, hspec.2.1⟩

lemma literalNamespace_literal (h : literalNamespace value = true) :
    ∀ chunk ∈ chunks value, LiteralChunk chunk := by
  simp only [literalNamespace, Bool.and_eq_true, List.all_eq_true] at h
  intro chunk hchunk
  have hname := literalName_literal (h.2 chunk hchunk).2
  rwa [String.toList_ofList] at hname

structure AgentNamed (value : String) : Prop where
  mark : agentMark.toList <+: value.toList
  length : value.toList.length = 28
  literal : ∀ c ∈ value.toList, literalChar c = true

lemma agentName_spec (h : agentName value = true) : AgentNamed value := by
  simp only [agentName, Bool.and_eq_true, List.isPrefixOf_iff_prefix, beq_iff_eq,
    List.all_eq_true] at h
  obtain ⟨hmark, hlength, hall⟩ := h
  obtain ⟨suffix, hvalue⟩ := hmark
  have hdrop : value.toList.drop agentMark.length = suffix := by
    rw [← hvalue]
    exact List.drop_left' rfl
  rw [hdrop] at hlength hall
  refine ⟨⟨suffix, hvalue⟩, ?_, ?_⟩
  · rw [← hvalue, List.length_append, hlength]
    rfl
  · intro c hc
    rw [← hvalue, List.mem_append] at hc
    rcases hc with hc | hc
    · have hmark : agentMark.toList.all literalChar = true := by decide
      exact List.all_eq_true.mp hmark c hc
    · have hdigit := hall c hc
      simp only [literalChar, Char.isAlphanum, Char.isAlpha, Char.isLower, Bool.or_eq_true,
        Bool.and_eq_true, decide_eq_true_eq] at hdigit ⊢
      rcases hdigit with hdigit | ⟨hlow, hhigh⟩
      · exact .inl (.inl (.inl (.inr hdigit)))
      · refine .inl (.inl (.inl (.inl (.inr ⟨hlow, ?_⟩))))
        exact UInt32.le_trans hhigh (by decide)

lemma AgentNamed.no_slash (h : AgentNamed value) : '/' ∉ value.toList :=
  fun hmem => (literalChar_spec (h.literal '/' hmem)).2.2 rfl

lemma AgentNamed.literalChunk (h : AgentNamed value) : LiteralChunk value.toList := by
  intro c hc
  have hspec := literalChar_spec (h.literal c hc)
  exact ⟨hspec.1, hspec.2.1⟩

lemma AgentNamed.ne {text : String} (h : AgentNamed value)
    (htext : agentMark.toList.isPrefixOf text.toList = false) : value ≠ text := by
  rintro rfl
  rw [List.isPrefixOf_iff_prefix.mpr h.mark] at htext
  cases htext

structure WellNamed (policy : Policy) : Prop where
  literal : ∀ chunk ∈ chunks policy.namespacePrefix, LiteralChunk chunk
  named : ∀ agent ∈ policy.agents, AgentNamed agent.commonName
  space : ∀ agent ∈ policy.agents,
    agent.agentNamespace = policy.namespacePrefix ++ "/" ++ agent.commonName
  distinct : (policy.agents.map (·.commonName)).Nodup
  peers : ∀ agent ∈ policy.agents, agent.commonName ∉ policy.trustedPeerCommonNames

lemma validatePeers_spec {peers subjects subjects' : List String}
    (h : validatePeers peers subjects = .ok subjects') :
    (∀ peer ∈ peers, peer ∈ subjects') ∧ ∀ s ∈ subjects, s ∈ subjects' := by
  induction peers generalizing subjects with
  | nil =>
    cases h
    exact ⟨by simp, fun s hs => hs⟩
  | cons peer peers ih =>
    simp only [validatePeers, bind_ok] at h
    obtain ⟨_, -, h⟩ := h
    obtain ⟨hpeers, hsubjects⟩ := ih h
    refine ⟨?_, fun s hs => hsubjects s (List.mem_cons_of_mem _ hs)⟩
    intro p hp
    rcases List.mem_cons.mp hp with rfl | hp
    · exact hsubjects p List.mem_cons_self
    · exact hpeers p hp

lemma validateAgents_spec {namespacePrefix : String} {agents : List AgentAdmission}
    {subjects : List String} (h : validateAgents namespacePrefix agents subjects = .ok ()) :
    (∀ agent ∈ agents, AgentNamed agent.commonName ∧
      agent.agentNamespace = namespacePrefix ++ "/" ++ agent.commonName ∧
      agent.commonName ∉ subjects) ∧ (agents.map (·.commonName)).Nodup := by
  induction agents generalizing subjects with
  | nil => simp
  | cons agent agents ih =>
    simp only [validateAgents, bind_ok, require_ok, Bool.and_eq_true, Bool.not_eq_true',
      List.contains_eq_mem, decide_eq_false_iff_not, beq_iff_eq] at h
    obtain ⟨_, ⟨⟨hname, hfresh⟩, hspace⟩, h⟩ := h
    obtain ⟨hagents, hnodup⟩ := ih h
    refine ⟨?_, ?_⟩
    · intro a ha
      rcases List.mem_cons.mp ha with rfl | ha
      · exact ⟨agentName_spec hname, hspace, hfresh⟩
      · obtain ⟨hnamed, hspace', hfresh'⟩ := hagents a ha
        exact ⟨hnamed, hspace', fun hmem => hfresh' (List.mem_cons_of_mem _ hmem)⟩
    · rw [List.map_cons, List.nodup_cons]
      refine ⟨?_, hnodup⟩
      intro hmem
      obtain ⟨a, ha, heq⟩ := List.mem_map.mp hmem
      exact (hagents a ha).2.2 (heq ▸ List.mem_cons_self)

lemma validate_spec (h : policy.validate = .ok ()) : WellNamed policy := by
  simp only [Policy.validate, bind_ok, require_ok] at h
  obtain ⟨_, -, _, -, _, hliteral, _, -, subjects, hpeers, hagents⟩ := h
  obtain ⟨hspec, hnodup⟩ := validateAgents_spec hagents
  refine ⟨literalNamespace_literal hliteral, fun a ha => (hspec a ha).1, fun a ha => (hspec a ha).2.1,
    hnodup, ?_⟩
  intro a ha hpeer
  exact (hspec a ha).2.2 ((validatePeers_spec hpeers).1 _ hpeer)

lemma WellNamed.eq_of_name (h : WellNamed policy) {a b : AgentAdmission} (ha : a ∈ policy.agents)
    (hb : b ∈ policy.agents) (hname : a.commonName = b.commonName) : a = b :=
  List.inj_on_of_nodup_map h.distinct ha hb hname

lemma agentRules_id {r : Rule} (hr : r ∈ agentRules agent) :
    ∃ d ∈ definitions, r.id = agent.commonName ++ "-" ++ d.1 ∧
      ∀ k ∈ r.keyExprs, ∃ path, k = agent.agentNamespace ++ "/" ++ path := by
  obtain ⟨d, hd, rfl⟩ := List.mem_map.mp hr
  refine ⟨d, hd, rfl, ?_⟩
  intro k hk
  obtain ⟨path, -, rfl⟩ := List.mem_map.mp hk
  exact ⟨path, rfl⟩

lemma ruleId_inj {a b x y : String} (ha : AgentNamed a) (hb : AgentNamed b)
    (h : a ++ "-" ++ x = b ++ "-" ++ y) : a = b ∧ x = y := by
  have hlist : a.toList ++ ("-".toList ++ x.toList) = b.toList ++ ("-".toList ++ y.toList) := by
    rw [← List.append_assoc, ← List.append_assoc, ← String.toList_append, ← String.toList_append,
      ← String.toList_append, ← String.toList_append, h]
  obtain ⟨hname, hrest⟩ := List.append_inj hlist (ha.length.trans hb.length.symm)
  exact ⟨String.toList_inj.mp hname, String.toList_inj.mp (List.append_cancel_left hrest)⟩

lemma ruleId_ne_trusted {a x : String} (ha : AgentNamed a) :
    a ++ "-" ++ x ≠ "trusted-authority" := by
  intro h
  obtain ⟨suffix, hmark⟩ := ha.mark
  have hlist : a.toList ++ ("-".toList ++ x.toList) = "trusted-authority".toList := by
    rw [← h, String.toList_append, String.toList_append, List.append_assoc]
  rw [← hmark] at hlist
  have hhead := congrArg List.head? hlist
  revert hhead
  simp [agentMark]

lemma agentRules_nodup (ha : AgentNamed agent.commonName) : ((agentRules agent).map (·.id)).Nodup := by
  have hids : (agentRules agent).map (·.id) =
      definitions.map (fun d => agent.commonName ++ "-" ++ d.1) := by
    rw [agentRules, List.map_map]
    rfl
  rw [hids]
  refine List.Nodup.map_on ?_ (by decide)
  intro d hd d' hd' heq
  have hsuffix := (ruleId_inj ha ha heq).2
  exact List.inj_on_of_nodup_map (f := Prod.fst) (by decide) hd hd' hsuffix

lemma rule_ids_nodup (h : WellNamed policy) : ((accessControl policy).rules.map (·.id)).Nodup := by
  show ("trusted-authority" :: (policy.agents.flatMap agentRules).map (·.id)).Nodup
  rw [List.nodup_cons, List.map_flatMap]
  constructor
  · intro hmem
    obtain ⟨a, ha, hid⟩ := List.mem_flatMap.mp hmem
    obtain ⟨r, hr, hid⟩ := List.mem_map.mp hid
    obtain ⟨d, -, hrule, -⟩ := agentRules_id hr
    exact ruleId_ne_trusted (h.named a ha) (hrule.symm.trans hid)
  · rw [List.nodup_flatMap]
    refine ⟨fun a ha => agentRules_nodup (h.named a ha), ?_⟩
    have hnames := List.pairwise_map.mp h.distinct
    refine List.Pairwise.imp_of_mem ?_ hnames
    intro a b ha hb hne id hid hid'
    obtain ⟨r, hr, rfl⟩ := List.mem_map.mp hid
    obtain ⟨r', hr', heq⟩ := List.mem_map.mp hid'
    obtain ⟨d, -, hrule, -⟩ := agentRules_id hr
    obtain ⟨d', -, hrule', -⟩ := agentRules_id hr'
    exact hne (ruleId_inj (h.named a ha) (h.named b hb)
      (hrule.symm.trans (heq.symm.trans hrule'))).1

lemma subject_ids_nodup (h : WellNamed policy) :
    ((accessControl policy).subjects.map (·.id)).Nodup := by
  show ("trusted-peers" :: (policy.agents.map
    (fun agent => (⟨agent.commonName, [.tls], [agent.commonName]⟩ : Subject))).map (·.id)).Nodup
  rw [List.map_map, List.nodup_cons]
  refine ⟨?_, h.distinct⟩
  intro hmem
  obtain ⟨a, ha, hid⟩ := List.mem_map.mp hmem
  exact (h.named a ha).ne (by decide) hid

lemma entries_refer {entry : PolicyEntry} (hentry : entry ∈ (accessControl policy).policies) :
    (∀ id ∈ entry.rules, id ∈ (accessControl policy).rules.map (·.id)) ∧
      ∀ id ∈ entry.subjects, id ∈ (accessControl policy).subjects.map (·.id) := by
  rcases List.mem_cons.mp hentry with rfl | hentry
  · constructor
    · intro id hid
      rw [List.mem_singleton.mp hid]
      exact List.mem_cons_self
    · intro id hid
      rw [List.mem_singleton.mp hid]
      exact List.mem_cons_self
  · obtain ⟨a, ha, rfl⟩ := List.mem_map.mp hentry
    constructor
    · intro id hid
      obtain ⟨r, hr, rfl⟩ := List.mem_map.mp hid
      exact List.mem_map_of_mem (List.mem_cons_of_mem _ (List.mem_flatMap.mpr ⟨a, ha, hr⟩))
    · intro id hid
      rw [List.mem_singleton.mp hid]
      refine List.mem_map.mpr ⟨_, List.mem_cons_of_mem _ (List.mem_map_of_mem ha), rfl⟩

variable {protocol : LinkProtocol} {commonName expression key : String} {message : AclMessage}
  {flow : AclFlow}

lemma subject_of_agent {subject : Subject} (h : WellNamed policy) (hagent : agent ∈ policy.agents)
    (hsubject : subject ∈ (accessControl policy).subjects) (hid : subject.id = agent.commonName) :
    subject.certCommonNames = [agent.commonName] := by
  have hne : agent.commonName ≠ "trusted-peers" := (h.named agent hagent).ne (by decide)
  rcases List.mem_cons.mp hsubject with rfl | hsubject
  · exact absurd hid.symm hne
  · obtain ⟨b, -, rfl⟩ := List.mem_map.mp hsubject
    exact congrArg (fun name => [name]) hid

lemma subject_of_trusted {subject : Subject} (h : WellNamed policy)
    (hsubject : subject ∈ (accessControl policy).subjects) (hid : subject.id = "trusted-peers") :
    subject.certCommonNames = policy.trustedPeerCommonNames := by
  rcases List.mem_cons.mp hsubject with rfl | hsubject
  · rfl
  · obtain ⟨b, hb, rfl⟩ := List.mem_map.mp hsubject
    exact absurd hid ((h.named b hb).ne (by decide))

lemma applies_cases {r : Rule} (h : WellNamed policy) (hr : r ∈ (accessControl policy).rules)
    (happlies : (accessControl policy).Applies protocol commonName r) :
    commonName ∈ policy.trustedPeerCommonNames ∨
      ∃ agent ∈ policy.agents, agent.commonName = commonName ∧ r ∈ agentRules agent := by
  obtain ⟨entry, hentry, hrule, subject, hsubject, hid, -, hname⟩ := happlies
  rcases List.mem_cons.mp hentry with rfl | hentry
  · rw [subject_of_trusted h hsubject (List.mem_singleton.mp hid)] at hname
    exact .inl hname
  · obtain ⟨a, ha, rfl⟩ := List.mem_map.mp hentry
    rw [subject_of_agent h ha hsubject (List.mem_singleton.mp hid)] at hname
    refine .inr ⟨a, ha, (List.mem_singleton.mp hname).symm, ?_⟩
    obtain ⟨r', hr', heq⟩ := List.mem_map.mp hrule
    have hmem : r' ∈ (accessControl policy).rules :=
      List.mem_cons_of_mem _ (List.mem_flatMap.mpr ⟨a, ha, hr'⟩)
    obtain rfl := List.inj_on_of_nodup_map (rule_ids_nodup h) hmem hr heq
    exact hr'

lemma permits_iff : (accessControl policy).Permits protocol commonName message flow expression ↔
    ∃ r ∈ (accessControl policy).rules, (accessControl policy).Applies protocol commonName r ∧
      message ∈ r.messages ∧ flow ∈ r.flows ∧ ∃ k ∈ r.keyExprs, Includes k expression := by
  have hallow : ∀ r ∈ (accessControl policy).rules, r.permission = .allow := by
    intro r hr
    rcases List.mem_cons.mp hr with rfl | hr
    · rfl
    · obtain ⟨a, -, hr⟩ := List.mem_flatMap.mp hr
      obtain ⟨d, -, rfl⟩ := List.mem_map.mp hr
      rfl
  constructor
  · rintro (hoff | ⟨-, hdefault | ⟨r, hr, -, hrest⟩⟩)
    · cases hoff
    · cases hdefault
    · exact ⟨r, hr, hrest⟩
  · rintro ⟨r, hr, hrest⟩
    refine .inr ⟨?_, .inr ⟨r, hr, hallow r hr, hrest⟩⟩
    intro r' hr' hdeny
    rw [hallow r' hr'] at hdeny
    cases hdeny

lemma permits_agent (h : WellNamed policy) (hagent : agent ∈ policy.agents)
    (hpermits : (accessControl policy).Permits protocol agent.commonName message flow expression) :
    ∃ path, Includes (agent.agentNamespace ++ "/" ++ path) expression := by
  obtain ⟨r, hr, happlies, -, -, k, hk, hincludes⟩ := permits_iff.mp hpermits
  rcases applies_cases h hr happlies with hpeer | ⟨a, ha, hname, hrules⟩
  · exact absurd hpeer (h.peers agent hagent)
  · obtain rfl := h.eq_of_name ha hagent hname
    obtain ⟨d, -, -, hpaths⟩ := agentRules_id hrules
    obtain ⟨path, rfl⟩ := hpaths k hk
    exact ⟨path, hincludes⟩

lemma under_own (h : WellNamed policy) (hagent : agent ∈ policy.agents)
    (hpermits : (accessControl policy).Permits protocol agent.commonName message flow expression)
    (hkey : keyMatches expression key = true) : Under agent.agentNamespace key := by
  obtain ⟨path, hincludes⟩ := permits_agent h hagent hpermits
  refine under_of_keyMatches ?_ (hincludes key hkey)
  have hnamed := h.named agent hagent
  rw [h.space agent hagent, chunks_slash, chunks_single hnamed.no_slash]
  intro chunk hchunk
  rcases List.mem_append.mp hchunk with hchunk | hchunk
  · exact h.literal chunk hchunk
  · rw [List.mem_singleton.mp hchunk]
    exact hnamed.literalChunk

lemma not_under_other (h : WellNamed policy) {other : AgentAdmission}
    (hagent : agent ∈ policy.agents) (hother : other ∈ policy.agents) (hne : agent ≠ other)
    (hunder : Under agent.agentNamespace key) : ¬Under other.agentNamespace key := by
  intro hunder'
  rw [h.space agent hagent] at hunder
  rw [h.space other hother] at hunder'
  have hname := eq_of_under (h.named agent hagent).no_slash (h.named other hother).no_slash
    hunder hunder'
  exact hne (h.eq_of_name hagent hother hname)

def TrustedOnly (policy : Policy) (key : String) : Prop :=
  (∃ protocol, ∃ peer ∈ policy.trustedPeerCommonNames, ∃ message flow,
    (accessControl policy).Permits protocol peer message flow key) ∧
  ∀ protocol, ∀ agent ∈ policy.agents, ∀ message flow,
    ¬(accessControl policy).Permits protocol agent.commonName message flow key

lemma permits_key (hpermits : (accessControl policy).Permits protocol commonName message flow
      expression) (hisKey : IsKey key) (hkey : keyMatches expression key = true) :
    (accessControl policy).Permits protocol commonName message flow key := by
  obtain ⟨r, hr, happlies, hmessage, hflow, k, hk, hincludes⟩ := permits_iff.mp hpermits
  refine permits_iff.mpr ⟨r, hr, happlies, hmessage, hflow, k, hk, ?_⟩
  intro other hother
  have hchunks := (keyMatches_of_isKey hisKey).mp hother
  have hmatch := hincludes key hkey
  rw [keyMatches] at hmatch ⊢
  rw [hchunks]
  exact hmatch

structure Isolated (policy : Policy) : Prop where
  agents : ∀ agent ∈ policy.agents, ∀ other ∈ policy.agents, agent ≠ other →
    ∀ protocol message flow expression key,
      (accessControl policy).Permits protocol agent.commonName message flow expression →
      keyMatches expression key = true →
      Under agent.agentNamespace key ∧ ¬Under other.agentNamespace key
  trusted : ∀ agent ∈ policy.agents, ∀ protocol message flow expression key,
    (accessControl policy).Permits protocol agent.commonName message flow expression →
    keyMatches expression key = true → IsKey key → ¬TrustedOnly policy key
  ruleIds : ((accessControl policy).rules.map (·.id)).Nodup
  subjectIds : ((accessControl policy).subjects.map (·.id)).Nodup
  entries : ∀ entry ∈ (accessControl policy).policies,
    (∀ id ∈ entry.rules, id ∈ (accessControl policy).rules.map (·.id)) ∧
      ∀ id ∈ entry.subjects, id ∈ (accessControl policy).subjects.map (·.id)
  unknown : ∀ commonName, commonName ∉ policy.trustedPeerCommonNames →
    commonName ∉ policy.agents.map (·.commonName) → ∀ protocol message flow expression,
      ¬(accessControl policy).Permits protocol commonName message flow expression

/-- The access control of every policy that passes validation isolates its Agents. -/
theorem agents_isolated (policy : Policy) (hvalid : policy.validate = .ok ()) : Isolated policy := by
  have h := validate_spec hvalid
  refine ⟨?_, ?_, rule_ids_nodup h, subject_ids_nodup h, fun entry => entries_refer, ?_⟩
  · intro agent hagent other hother hne protocol message flow expression key hpermits hkey
    have hown := under_own h hagent hpermits hkey
    exact ⟨hown, not_under_other h hagent hother hne hown⟩
  · intro agent hagent protocol message flow expression key hpermits hkey hisKey htrusted
    exact htrusted.2 protocol agent hagent message flow (permits_key hpermits hisKey hkey)
  · intro commonName hpeer hname protocol message flow expression hpermits
    obtain ⟨r, hr, happlies, -⟩ := permits_iff.mp hpermits
    rcases applies_cases h hr happlies with hmem | ⟨a, ha, rfl, -⟩
    · exact hpeer hmem
    · exact hname (List.mem_map_of_mem ha)

def samplePolicy : Policy where
  version := 1
  fleetId := "fleet-test"
  generation := 1
  issuedAt := 0
  notBefore := 0
  expiresAt := 60000000000
  namespacePrefix := "iot/v1/agents"
  trustedPeerCommonNames := ["controller", "router-2"]
  agents :=
    [⟨"agt_0123456789abcdef01234567", "iot/v1/agents/agt_0123456789abcdef01234567"⟩,
      ⟨"agt_fedcba9876543210fedcba98", "iot/v1/agents/agt_fedcba9876543210fedcba98"⟩]

theorem sample_agents_isolated : samplePolicy.validate = .ok () ∧ Isolated samplePolicy := by
  have hvalid : samplePolicy.validate = .ok () := by decide +kernel
  exact ⟨hvalid, agents_isolated samplePolicy hvalid⟩

lemma applies_own {r : Rule} (hagent : agent ∈ policy.agents) (hr : r ∈ agentRules agent) :
    r ∈ (accessControl policy).rules ∧ (accessControl policy).Applies .tls agent.commonName r :=
  ⟨List.mem_cons_of_mem _ (List.mem_flatMap.mpr ⟨agent, hagent, hr⟩),
    _, List.mem_cons_of_mem _ (List.mem_map_of_mem hagent), List.mem_map_of_mem hr,
    _, List.mem_cons_of_mem _ (List.mem_map_of_mem hagent), List.mem_singleton_self _,
    List.mem_singleton_self _, List.mem_singleton_self _⟩

lemma tls_of_applies {r : Rule} {commonName : String}
    (h : (accessControl policy).Applies protocol commonName r) : protocol = .tls := by
  obtain ⟨-, -, -, subject, hsubject, -, hprotocol, -⟩ := h
  rcases List.mem_cons.mp hsubject with rfl | hsubject
  · exact List.mem_singleton.mp hprotocol
  · obtain ⟨a, -, rfl⟩ := List.mem_map.mp hsubject
    exact List.mem_singleton.mp hprotocol

/-- A rule of every Agent gives it the path in its namespace. -/
def Listed (message : AclMessage) (flow : AclFlow) (path : String) : Prop :=
  ∃ d ∈ definitions, message ∈ d.2.1 ∧ flow ∈ d.2.2.1 ∧ path ∈ d.2.2.2

instance (message : AclMessage) (flow : AclFlow) (path : String) :
    Decidable (Listed message flow path) :=
  inferInstanceAs (Decidable (∃ d ∈ definitions, _))

lemma permits_own {path : String} (hagent : agent ∈ policy.agents)
    (hlisted : Listed message flow path)
    (hincludes : Includes (agent.agentNamespace ++ "/" ++ path) expression) :
    (accessControl policy).Permits .tls agent.commonName message flow expression := by
  obtain ⟨d, hd, hmessage, hflow, hpath⟩ := hlisted
  obtain ⟨hr, happlies⟩ := applies_own hagent (List.mem_map_of_mem hd)
  exact permits_iff.mpr ⟨_, hr, happlies, hmessage, hflow, _, List.mem_map_of_mem hpath, hincludes⟩

/-- An Agent has what is listed, in its own namespace and over TLS, and nothing else. -/
theorem agent_authority_exact (policy : Policy) (hvalid : policy.validate = .ok ())
    (agent : AgentAdmission) (hagent : agent ∈ policy.agents) (protocol : LinkProtocol)
    (message : AclMessage) (flow : AclFlow) (expression : String) :
    (accessControl policy).Permits protocol agent.commonName message flow expression ↔
      protocol = .tls ∧ ∃ path, Listed message flow path ∧
        Includes (agent.agentNamespace ++ "/" ++ path) expression := by
  have h := validate_spec hvalid
  constructor
  · intro hpermits
    obtain ⟨r, hr, happlies, hmessage, hflow, k, hk, hincludes⟩ := permits_iff.mp hpermits
    rcases applies_cases h hr happlies with hpeer | ⟨a, ha, hname, hrules⟩
    · exact absurd hpeer (h.peers agent hagent)
    · obtain rfl := h.eq_of_name ha hagent hname
      obtain ⟨d, hd, rfl⟩ := List.mem_map.mp hrules
      obtain ⟨path, hpath, rfl⟩ := List.mem_map.mp hk
      exact ⟨tls_of_applies happlies, path, ⟨d, hd, hmessage, hflow, hpath⟩, hincludes⟩
  · rintro ⟨rfl, path, hlisted, hincludes⟩
    exact permits_own hagent hlisted hincludes

lemma AgentNamed.keyspace {value : String} (h : AgentNamed value) (space : String) :
    GatewayZenohKeyspace.new (space ++ "/" ++ value) = ⟨space ++ "/" ++ value⟩ := by
  have hlast : ∀ hne, ¬((space ++ "/" ++ value).toList.getLast hne == '/') = true := by
    intro hne hslash
    have hvalue : value.toList ≠ [] := by
      rw [← List.length_pos_iff, h.length]
      decide
    simp only [String.toList_append, List.getLast_append_of_ne_nil _ hvalue, beq_iff_eq] at hslash
    exact h.no_slash (hslash ▸ List.getLast_mem hvalue)
  rw [GatewayZenohKeyspace.new, List.rdropWhile_eq_self_iff.mpr hlast, String.ofList_toList]

variable {name : String}

lemma literal_of_name (h : literalName name = true) :
    LiteralChunk name.toList ∧ '/' ∉ name.toList ∧ verbatim name.toList = false := by
  have hliteral := literalName_literal h
  simp only [literalName, Bool.and_eq_true, List.all_eq_true] at h
  refine ⟨hliteral, fun hmem => (literalChar_spec (h.2 _ hmem)).2.2 rfl, ?_⟩
  rw [verbatim, beq_eq_false_iff_ne]
  intro hhead
  exact absurd (h.2 '@' (List.mem_of_head? hhead)) (by decide)

lemma literal_below {space : String} (hspace : ∀ chunk ∈ chunks space, LiteralChunk chunk)
    (hliteral : LiteralChunk name.toList) (hslash : '/' ∉ name.toList) :
    ∀ chunk ∈ chunks (space ++ "/" ++ name), LiteralChunk chunk := by
  rw [chunks_slash, chunks_single hslash]
  intro chunk hchunk
  rcases List.mem_append.mp hchunk with hchunk | hchunk
  · exact hspace chunk hchunk
  · rwa [List.mem_singleton.mp hchunk]

/-- A name below a literal key is a key of the expression with `*`. -/
lemma includes_name {space : String} (hspace : ∀ chunk ∈ chunks space, LiteralChunk chunk)
    (hname : literalName name = true) : Includes (space ++ "/" ++ "*") (space ++ "/" ++ name) := by
  obtain ⟨hliteral, hslash, hplain⟩ := literal_of_name hname
  intro key hkey
  rw [keyMatches, chunks_slash, matchChunks_append hspace] at hkey ⊢
  obtain ⟨rest, hchunks, hmatch⟩ := hkey
  rw [chunks_single hslash, matchChunks_literal hliteral] at hmatch
  obtain ⟨rest', rfl, hend⟩ := hmatch
  refine ⟨_, hchunks, ?_⟩
  rw [List.isEmpty_iff.mp hend]
  show (chunkMatches ['*'] name.toList && true) = true
  rw [chunkMatches, hplain]
  rfl

lemma permits_below {kind : String} (h : WellNamed policy) (hagent : agent ∈ policy.agents)
    (hlisted : Listed message flow (kind ++ "/" ++ "*")) (hkind : literalName kind = true)
    (hname : literalName name = true) :
    (accessControl policy).Permits .tls agent.commonName message flow
      (agent.agentNamespace ++ "/" ++ kind ++ "/" ++ name) := by
  have hnamed := h.named agent hagent
  obtain ⟨hliteral, hslash, -⟩ := literal_of_name hkind
  have hspace := literal_below h.literal hnamed.literalChunk hnamed.no_slash
  rw [← h.space agent hagent] at hspace
  refine permits_own hagent hlisted ?_
  rw [← String.append_assoc, ← String.append_assoc]
  exact includes_name (literal_below hspace hliteral hslash) hname

/-- The access control allows everything that the session of an admitted Agent does. -/
theorem keyspace_permitted (policy : Policy) (hvalid : policy.validate = .ok ())
    (agent : AgentAdmission) (hagent : agent ∈ policy.agents) (message : AclMessage)
    (expression : String)
    (huses : (GatewayZenohKeyspace.new agent.agentNamespace).Uses message expression) :
    (accessControl policy).Permits .tls agent.commonName message .ingress expression := by
  have h := validate_spec hvalid
  have hspace : GatewayZenohKeyspace.new agent.agentNamespace = ⟨agent.agentNamespace⟩ := by
    rw [h.space agent hagent]
    exact (h.named agent hagent).keyspace _
  have hself : ∀ path, Includes path path := fun _ _ => id
  rw [hspace] at huses
  cases huses with
  | subscribe | token | history | commit => exact permits_own hagent (by decide) (hself _)
  | publish publication hnamed =>
    cases publication with
    | statusSnapshot => exact permits_own hagent (by decide) (hself _)
    | _ => exact permits_below h hagent (by decide) (by decide) hnamed

/-- An Agent cannot delete a key, not even its own. -/
theorem sample_authority_exact : samplePolicy.validate = .ok () ∧
    ¬(accessControl samplePolicy).Permits .tls "agt_0123456789abcdef01234567" .delete .ingress
      "iot/v1/agents/agt_0123456789abcdef01234567/status/latest" := by
  have hvalid : samplePolicy.validate = .ok () := by decide +kernel
  have hdelete : ∀ d ∈ definitions, AclMessage.delete ∉ d.2.1 := by decide
  refine ⟨hvalid, fun hpermits => ?_⟩
  obtain ⟨-, path, ⟨d, hd, hmessage, -⟩, -⟩ :=
    (agent_authority_exact samplePolicy hvalid _ List.mem_cons_self _ _ _ _).mp hpermits
  exact hdelete d hd hmessage

theorem sample_keyspace_permitted : samplePolicy.validate = .ok () ∧
    (accessControl samplePolicy).Permits .tls "agt_0123456789abcdef01234567" .put .ingress
      ((GatewayZenohKeyspace.new "iot/v1/agents/agt_0123456789abcdef01234567").result "cmd_1") := by
  have hvalid : samplePolicy.validate = .ok () := by decide +kernel
  exact ⟨hvalid, keyspace_permitted samplePolicy hvalid _ List.mem_cons_self _ _
    (.publish (.commandAccepted "cmd_1") (by decide))⟩

end Inari.Router
