import Heightt.Governance.Operations

/-!
# The life of an election

Four operations set the status of an election, two of them to what the request
says, and each guard looks at a reading of its own. `Orderly` says what the guards
miss; then an active election has a candidate, a completed or cancelled one stays
so, and candidates come only while nominations are open and there is room.
-/

namespace Heightt.Governance

open Store ReadCommitted Database

/-- COMPLETED or CANCELLED. -/
def ElectionStatus.isFinal : ElectionStatus → Bool
  | .completed | .cancelled => true
  | _ => false

namespace GovernanceStmt

/-- An election becomes ACTIVE only with a candidate, its status was read as it is
and is not CANCELLED, and a nomination counted the candidates there are. -/
def Orderly (d : GovernanceDb) : GovernanceStmt → Prop
  | createElection e => e.status ≠ .active
  | updateElection seen patch =>
    (∀ e ∈ d.elections.find seen.id, e.status = seen.status ∧
      (e.status = .cancelled → patch.status.getD .cancelled = .cancelled)) ∧
      (patch.status = some .active → ∃ c ∈ d.candidates.rows, c.electionId = seen.id)
  | createCandidate c seen count =>
    (∀ e ∈ d.elections.find seen.id, e.status = seen.status) ∧ (d.candidatesFor c.positionId).length = count
  | _ => True

instance (d : GovernanceDb) : (w : GovernanceStmt) → Decidable (w.Orderly d)
  | createElection _ => inferInstanceAs (Decidable (_ ≠ _))
  | updateElection seen _ => inferInstanceAs (Decidable
      ((∀ e ∈ d.elections.find seen.id, _ ∧ (_ → _)) ∧ (_ → ∃ c ∈ d.candidates.rows, _)))
  | createCandidate _ seen _ => inferInstanceAs (Decidable ((∀ e ∈ d.elections.find seen.id, _) ∧ _))
  | createPositions _ | approveCandidate _ | createVote .. | createActivityLog | tick _ => isTrue trivial

end GovernanceStmt

/-- Every commit is orderly. -/
def Orderly (c : GovernanceSystem) : Effect GovernanceStmt CacheCall → Prop
  | .commit _ _ F => ∀ w ∈ F, w.Orderly c.db
  | _ => True

instance (c : GovernanceSystem) : (eff : Effect GovernanceStmt CacheCall) → Decidable (Orderly c eff)
  | .commit _ _ F => inferInstanceAs (Decidable (∀ w ∈ F, w.Orderly c.db))
  | .internal | .fault _ | .called .. | .unsent .. => isTrue trivial

/-- The elections and their candidates are as the lifecycle wants them. -/
structure InOrder (d : GovernanceDb) : Prop where
  active : ∀ e ∈ d.elections.rows, e.status = .active → ∃ c ∈ d.candidates.rows, c.electionId = e.id
  limit : ∀ p ∈ d.positions.rows, (d.candidatesFor p.id).length ≤ p.maxCandidates.toNat
  sited : Sited d

/-- What the elections of a run should be. -/
structure ElectionLifecycle (d : GovernanceDb) (log : GovernanceLog) : Prop where
  inOrder : InOrder d
  /-- A status that was final at any time still stands. -/
  settled : ∀ entry ∈ log, ∀ e ∈ entry.before.elections.rows, e.status.isFinal = true →
    ∃ e', d.elections.find e.id = some e' ∧ e'.status = e.status
  /-- Candidates were added while nominations were open. -/
  nominated : ∀ entry ∈ log, ∀ c seen count, .createCandidate c seen count ∈ entry.writes →
    ∃ e, entry.before.elections.find c.electionId = some e ∧
      (e.status = .draft ∨ e.status = .nomination)

/-! ## One statement -/

theorem candidate_of_grows {d d' : GovernanceDb} (grows : Grows d d') {electionId : String}
    (h : ∃ c ∈ d.candidates.rows, c.electionId = electionId) :
    ∃ c ∈ d'.candidates.rows, c.electionId = electionId := by
  obtain ⟨c, hc, rfl⟩ := h
  obtain ⟨c', hc', same, -⟩ := grows.candidates _ c (Table.find_of_mem hc)
  exact ⟨c', Table.find_mem hc', same⟩

/-- The limits when no candidate is added. -/
theorem limit_of_same {d d' : GovernanceDb} (h : InOrder d) (grows : Grows d d')
    (same : ∀ positionId, (d'.candidatesFor positionId).length = (d.candidatesFor positionId).length) :
    ∀ p ∈ d'.positions.rows, (d'.candidatesFor p.id).length ≤ p.maxCandidates.toNat := by
  intro p hp
  rw [same]
  cases hold : d.positions.find p.id with
  | none =>
    -- No candidate stands for a position that was not there.
    have none_ : d.candidatesFor p.id = [] := by
      refine List.eq_nil_iff_forall_not_mem.2 fun c hc => ?_
      obtain ⟨hc, position⟩ := List.mem_filter.1 hc
      obtain ⟨p', hp', -⟩ := h.sited c hc
      rw [of_decide_eq_true position, hold] at hp'
      cases hp'
    rw [none_]
    exact Nat.zero_le _
  | some p₀ =>
    obtain ⟨p', hp', rfl⟩ := grows.positions _ p₀ hold
    rw [Table.find_of_mem hp] at hp'
    obtain rfl := Option.some.inj hp'
    exact h.limit p (Table.find_mem hold)

theorem length_candidatesFor_approve (d : GovernanceDb) (id positionId : String) :
    (((GovernanceStmt.approveCandidate id).apply d).candidatesFor positionId).length =
      (d.candidatesFor positionId).length := by
  show ((d.candidates.rows.map fun c => if c.id = id then c.approve else c).filter _).length = _
  rw [List.filter_map, List.length_map]
  refine congrArg (fun l : List Candidate => l.length) (List.filter_congr fun c _ => ?_)
  show decide ((if c.id = id then c.approve else c).positionId = positionId) = _
  split <;> rfl

theorem free_of_createElection {d : GovernanceDb} {e : Election}
    (valid : (GovernanceStmt.createElection e).check d = none) : d.elections.find e.id = none := by
  rw [← Option.not_isSome_iff_eq_none]
  intro taken
  simp [GovernanceStmt.check, taken] at valid

theorem free_of_createCandidate {d : GovernanceDb} {c : Candidate} {seen : Election} {count : Nat}
    (valid : (GovernanceStmt.createCandidate c seen count).check d = none) :
    d.candidates.find c.id = none := by
  rw [← Option.not_isSome_iff_eq_none]
  intro taken
  simp [GovernanceStmt.check, taken] at valid

theorem election_of_createCandidate {d : GovernanceDb} {c : Candidate} {seen : Election} {count : Nat}
    (valid : (GovernanceStmt.createCandidate c seen count).check d = none) :
    ∃ e, d.elections.find c.electionId = some e := by
  rw [← Option.isSome_iff_exists]
  by_contra missing
  simp only [GovernanceStmt.check, missing, false_and, if_false] at valid
  split at valid <;> cases valid

/-- What the state must offer for a statement to keep it in order. -/
def GovernanceStmt.Keeps (d : GovernanceDb) : GovernanceStmt → Prop
  | createElection e => e.status ≠ .active
  | updateElection seen patch =>
    patch.status = some .active → ∃ c ∈ d.candidates.rows, c.electionId = seen.id
  | createCandidate c _ _ => (∃ p, d.positions.find c.positionId = some p ∧
      p.electionId = c.electionId ∧ (d.candidatesFor c.positionId).length < p.maxCandidates)
  | _ => True

theorem inOrder_apply {d : GovernanceDb} {w : GovernanceStmt} (h : InOrder d) (sites : w.Sites d)
    (valid : w.check d = none) (keeps : w.Keeps d) : InOrder (w.apply d) := by
  have grows := grows_apply w d
  refine ⟨fun e he active => ?_, ?_, sited_apply h.sited sites⟩
  · refine candidate_of_grows grows ?_
    cases w with
    | createElection e₀ =>
      change e ∈ (d.elections.insert e₀).rows at he
      rw [Table.insert_rows (free_of_createElection valid)] at he
      rcases List.mem_append.1 he with he | he
      · exact h.active e he active
      · exact absurd (List.mem_singleton.1 he ▸ active) keeps
    | updateElection seen patch =>
      obtain ⟨e₀, he₀, rfl⟩ := List.mem_map.1 he
      split at active <;> rename_i hid
      · rw [if_pos hid]
        cases hp : patch.status with
        | none => exact h.active e₀ he₀ (by simpa [ElectionPatch.apply, hp] using active)
        | some status =>
          have : status = .active := by simpa [ElectionPatch.apply, hp] using active
          obtain ⟨c, hc, own⟩ := keeps (this ▸ hp)
          exact ⟨c, hc, own.trans hid.symm⟩
      · rw [if_neg hid]
        exact h.active e₀ he₀ active
    | _ => exact h.active e he active
  · cases w with
    | createCandidate c seen count =>
      obtain ⟨p₀, hp₀, -, room⟩ := keeps
      intro p (hp : p ∈ d.positions.rows)
      show ((d.candidates.insert c).rows.filter _).length ≤ _
      rw [Table.insert_rows (free_of_createCandidate valid), List.filter_append, List.length_append]
      have old := h.limit p hp
      by_cases hpos : c.positionId = p.id
      · rw [hpos, Table.find_of_mem hp] at hp₀
        obtain rfl := Option.some.inj hp₀
        rw [hpos] at room
        have := List.length_filter_le (fun r : Candidate => decide (r.positionId = p.id)) [c]
        rw [List.length_singleton] at this
        unfold GovernanceDb.candidatesFor at room
        omega
      · have other : [c].filter (fun r => decide (r.positionId = p.id)) = [] :=
          List.filter_eq_nil_iff.2 (by simpa using hpos)
        rw [other, List.length_nil, Nat.add_zero]
        exact old
    | approveCandidate id => exact limit_of_same h grows fun _ => length_candidatesFor_approve d id _
    | _ => exact limit_of_same h grows fun _ => rfl

/-- A final status stands where an update meets what it has read. -/
theorem settled_apply {d : GovernanceDb} {w : GovernanceStmt} (valid : w.check d = none)
    (stands : ∀ seen patch, w = .updateElection seen patch → ∀ e ∈ d.elections.find seen.id,
      e.status.isFinal = true → patch.status.getD e.status = e.status)
    {e : Election} (he : e ∈ d.elections.rows) (final : e.status.isFinal = true) :
    ∃ e', (w.apply d).elections.find e.id = some e' ∧ e'.status = e.status := by
  have hfind := Table.find_of_mem he
  cases w with
  | createElection e₀ =>
    have kept : (d.elections.insert e₀).find e.id = some e := by
      rw [Table.find_insert (free_of_createElection valid), if_neg]
      · exact hfind
      · intro same
        rw [← same, free_of_createElection valid] at hfind
        cases hfind
    exact ⟨e, kept, rfl⟩
  | updateElection seen patch =>
    have found := Table.find_modify d.elections seen.id patch.apply (fun _ => rfl) e.id
    by_cases hid : e.id = seen.id
    · rw [if_pos hid, hfind] at found
      exact ⟨patch.apply e, found, stands seen patch rfl e (hid ▸ hfind) final⟩
    · rw [if_neg hid, hfind] at found
      exact ⟨e, found, rfl⟩
  | _ => exact ⟨e, hfind, rfl⟩

/-! ## Runs -/

/-- What a commit keeps, from what every statement of it keeps. -/
theorem lifecycle_append {d d' : GovernanceDb} {log : GovernanceLog} {i : Nat} {F : List GovernanceStmt}
    (h : ElectionLifecycle d log) (inOrder : InOrder d')
    (settled : ∀ e ∈ d.elections.rows, e.status.isFinal = true →
      ∃ e', d'.elections.find e.id = some e' ∧ e'.status = e.status)
    (nominated : ∀ c seen count, .createCandidate c seen count ∈ F →
      ∃ e, d.elections.find c.electionId = some e ∧ (e.status = .draft ∨ e.status = .nomination)) :
    ElectionLifecycle d' (log ++ [⟨i, F, d⟩]) where
  inOrder := inOrder
  settled := by
    intro entry hentry e he final
    rcases List.mem_append.1 hentry with hentry | hentry
    · obtain ⟨e₁, he₁, same⟩ := h.settled entry hentry e he final
      obtain ⟨e', he', same'⟩ := settled e₁ (Table.find_mem he₁) (same ▸ final)
      rw [Table.find_key he₁] at he'
      exact ⟨e', he', same'.trans same⟩
    · obtain rfl := List.mem_singleton.1 hentry
      exact settled e he final
  nominated := by
    intro entry hentry
    rcases List.mem_append.1 hentry with hentry | hentry
    · exact h.nominated entry hentry
    · obtain rfl := List.mem_singleton.1 hentry
      exact nominated

/-- A commit of one statement that neither nominates nor changes an election. -/
theorem lifecycle_of_same {d d' : GovernanceDb} {log : GovernanceLog} {i : Nat} {F : List GovernanceStmt}
    (h : ElectionLifecycle d log) (inOrder : InOrder d') (same : d'.elections = d.elections)
    (none_ : ∀ c seen count, .createCandidate c seen count ∉ F) :
    ElectionLifecycle d' (log ++ [⟨i, F, d⟩]) := by
  refine lifecycle_append h inOrder (fun e he _ => ⟨e, ?_, rfl⟩) fun c seen count hw =>
    absurd hw (none_ c seen count)
  rw [same]
  exact Table.find_of_mem he

/-- An update that has read the status as it is and does not touch a final one. -/
theorem lifecycle_of_update {d : GovernanceDb} {log : GovernanceLog} {i : Nat} {seen : Election}
    {patch : ElectionPatch} (h : ElectionLifecycle d log) (uncompleted : seen.status ≠ .completed)
    (valid : violation [.updateElection seen patch] d = none)
    (orderly : (GovernanceStmt.updateElection seen patch).Orderly d) :
    ElectionLifecycle (applyAll [.updateElection seen patch] d)
      (log ++ [⟨i, [.updateElection seen patch], d⟩]) := by
  have ok := (violation_cons.1 valid).1
  refine lifecycle_append h (inOrder_apply (w := .updateElection seen patch) h.inOrder trivial ok orderly.2) ?_
    (by simp)
  refine fun e he final => settled_apply ok ?_ he final
  rintro _ _ ⟨⟩ e he final
  obtain ⟨status, cancelled⟩ := orderly.1 e he
  cases hs : e.status with
  | cancelled => exact cancelled hs
  | completed => exact absurd (status.symm.trans hs) uncompleted
  | _ =>
    rw [hs] at final
    cases final

theorem lifecycle_of_writes {c : GovernanceSystem} {i : Nat} {op : GovernanceOp} {F : List GovernanceStmt}
    (writes : op.Writes c.db F) (valid : violation F c.db = none)
    (orderly : Orderly c (.commit i false F)) (h : ElectionLifecycle c.db c.log) :
    ElectionLifecycle (applyAll F c.db) (c.log ++ [⟨i, F, c.db⟩]) := by
  have sites := sites_of_writes writes
  rcases writes with rfl | decides
  · exact lifecycle_of_same h h.inOrder rfl (by simp)
  cases decides with
  | create userId dto new =>
    obtain ⟨ok, rest⟩ := violation_cons.1 valid
    obtain ⟨ok', -⟩ := violation_cons.1 rest
    have inOrder := inOrder_apply h.inOrder (sites _ List.mem_cons_self) ok (orderly _ List.mem_cons_self)
    have inOrder' := inOrder_apply (w := .createPositions _) inOrder trivial ok' trivial
    refine lifecycle_append h inOrder' ?_ (by simp)
    exact fun e he final => settled_apply ok (by simp) he final
  | update id userId dto _ seen open_ =>
    exact lifecycle_of_update h open_.2 valid (orderly _ List.mem_cons_self)
  | start id userId _ s seen now grows open_ candidate =>
    exact lifecycle_of_update h open_.2 valid (orderly _ List.mem_cons_self)
  | «end» id userId _ seen now open_ =>
    exact lifecycle_of_update h open_ valid (orderly _ List.mem_cons_self)
  | nominate dto newId _ s seen position count grows found own open_ free =>
    have ok := (violation_cons.1 valid).1
    obtain ⟨current, counted⟩ := orderly _ List.mem_cons_self
    obtain ⟨p, hp, rfl⟩ := grows.positions _ position found
    refine lifecycle_append h ?_ (fun e he _ => ⟨e, Table.find_of_mem he, rfl⟩) fun c seen' count' hw => ?_
    · refine inOrder_apply h.inOrder (sites _ List.mem_cons_self) ok ⟨position, hp, own, ?_⟩
      show ((c.db.candidatesFor dto.positionId).length : Int) < _
      rwa [counted]
    · cases List.mem_singleton.1 hw
      obtain ⟨e, he⟩ := election_of_createCandidate ok
      exact ⟨e, he, (current e he) ▸ open_⟩
  | approve candidateId userId =>
    have ok := (violation_cons.1 valid).1
    exact lifecycle_of_same h
      (inOrder_apply (w := .approveCandidate candidateId) h.inOrder trivial ok trivial) rfl (by simp)
  | vote userId dto newId _ s seen votes =>
    rw [applyAll_voteStatements]
    refine lifecycle_of_same h ⟨h.inOrder.active, h.inOrder.limit, h.inOrder.sited⟩ rfl ?_
    intro c seen' count hw
    obtain ⟨v, -, hv⟩ := List.mem_map.1 hw
    cases hv
  | tick ms => exact lifecycle_of_same h ⟨h.inOrder.active, h.inOrder.limit, h.inOrder.sited⟩ rfl (by simp)

/-- **The lifecycle.** In a run whose commits are orderly, from a state in order,
every active election has a candidate, no position has more than it allows, a
final status stands, and candidates were added while nominations were open. -/
theorem elections_keep_lifecycle {db : GovernanceDb} {ops : List GovernanceOp} {c : GovernanceSystem}
    (inOrder : InOrder db) (run : Reaches Orderly (begins db ops) c) : ElectionLifecycle c.db c.log := by
  refine induct_of_run run ElectionLifecycle ⟨inOrder, by simp, by simp⟩ ?_ fun {d log} i h => ?_
  · exact fun _ writes valid orderly h => lifecycle_of_writes writes valid orderly h
  · exact lifecycle_of_same h h.inOrder rfl (by simp)

/-- A member of the staff, and no election. -/
def noElections : GovernanceDb where
  organizations := ["o"]
  memberships := [⟨"s", "o", true⟩, ⟨"x", "o", false⟩]

theorem inOrder_noElections : InOrder noElections where
  active := fun _ he => absurd he List.not_mem_nil
  limit := fun _ hp => absurd hp List.not_mem_nil
  sited := fun _ hc => absurd hc List.not_mem_nil

/-- An election from its creation to its end. -/
def oneElectionLife : List GovernanceOp :=
  [.createElection "s" ⟨"o", 0, 1000, none, [⟨"President", some 1, none⟩]⟩ ⟨"e", fun _ => "p"⟩,
    .nominateCandidate ⟨"p", "x"⟩ "c", .startElection "e" "s", .endElection "e" "s"]

theorem election_lives : ∃ c, Reaches Orderly (begins noElections oneElectionLife) c ∧
    c.threads.all Thread.returned = true ∧
    c.db.elections.rows.map Election.status = [.completed] ∧ ElectionLifecycle c.db c.log := by
  obtain ⟨c, run, hc⟩ := Reaches.of_replay_any Orderly (begins noElections oneElectionLife)
    (turns [(0, 16), (1, 18), (2, 20), (3, 17)])
    (fun c : GovernanceSystem => c.threads.all Thread.returned = true ∧
      c.db.elections.rows.map Election.status = [.completed]) (by decide +kernel)
  exact ⟨c, run, hc.1, hc.2, elections_keep_lifecycle inOrder_noElections run⟩

/-- An election without candidates is cancelled, and made active by an update. -/
def cancelledElection : List GovernanceOp :=
  [.createElection "s" ⟨"o", 0, 1000, some .cancelled, []⟩ ⟨"e", fun _ => "p"⟩,
    .updateElection "e" "s" { status := some .active }]

theorem cancelled_election_revived : ∃ c, Reaches (fun _ _ => True) (begins noElections cancelledElection) c ∧
    c.threads.all Thread.returned = true ∧
    c.db.elections.rows.map Election.status = [.active] ∧ c.db.candidates.rows = [] ∧
    ¬ElectionLifecycle c.db c.log := by
  obtain ⟨c, run, returned, active, none_⟩ := Reaches.of_replay_any (fun _ _ => True)
    (begins noElections cancelledElection) (turns [(0, 16), (1, 16)])
    (fun c : GovernanceSystem => c.threads.all Thread.returned = true ∧
      c.db.elections.rows.map Election.status = [.active] ∧ c.db.candidates.rows = []) (by decide +kernel)
  refine ⟨c, run, returned, active, none_, fun lifecycle => ?_⟩
  obtain ⟨e, he, status⟩ := List.mem_map.1 (active ▸ List.mem_singleton_self ElectionStatus.active)
  obtain ⟨candidate, hc, -⟩ := lifecycle.inOrder.active e he status
  rw [none_] at hc
  cases hc

end Heightt.Governance
