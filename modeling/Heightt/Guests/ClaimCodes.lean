import Heightt.Guests.Service
import Heightt.ReadCommitted.Invariant

/-!
# Guessing a claim code

`verifyClaimCode` reads the attempts of a code, compares it with what was
submitted, counts a miss and marks a used code in separate steps. `InTurn` says
that no other call comes between; then a code is compared with at most five wrong
submissions and used once.
-/

namespace Heightt.Guests

open Store ReadCommitted Prog Database GuestPaymentService

/-- The committed transactions of a run. -/
abbrev GuestLog := List (Commit GuestDb GuestStmt)

/-- How often a code was compared with a wrong submission. -/
def wrong (x : Outside) (id : String) : Nat := x.compared.count (id, false)

/-- How many of them were counted. -/
def counted (log : GuestLog) (id : String) : Nat := (log.flatMap Commit.writes).count (.incrementAttempts id)

/-- The code that a statement marks as used. -/
def GuestStmt.used : GuestStmt → Option String
  | useClaimCode id _ => some id
  | _ => none

/-- The successful claims with a code. -/
def claimsWith (log : GuestLog) (id : String) : Nat :=
  log.countP fun e => e.writes.any fun w => w.used = some id

/-- What the codes of a run should be. -/
structure ClaimCodesBounded (x : Outside) (log : GuestLog) : Prop where
  guesses : ∀ id, wrong x id ≤ 5
  claims : ∀ id, claimsWith log id ≤ 1

/-- The code has not been used. -/
def Unused (d : GuestDb) (id : String) : Prop := (d.claimCodes.find id).any (fun c => c.usedAt = none) = true

instance (d : GuestDb) (id : String) : Decidable (Unused d id) := inferInstanceAs (Decidable (_ = true))

/-- A code is compared while its attempts are as they were read and tell all
wrong submissions so far, and it is used while it is unused. -/
def InTurn (c : GuestSystem) : Effect GuestStmt GuestCall → Prop
  | .called _ (.timingSafeEqual claim _) _ =>
    (c.db.claimCodes.find claim.id).map GuestClaimCode.attempts = some claim.attempts ∧
      wrong c.ext claim.id = counted c.log claim.id
  | .commit _ _ F => ∀ w ∈ F, ∀ id ∈ w.used, Unused c.db id
  | _ => True

instance (c : GuestSystem) : (eff : Effect GuestStmt GuestCall) → Decidable (InTurn c eff)
  | .called _ (.timingSafeEqual _ _) _ => inferInstanceAs (Decidable (_ ∧ _))
  | .called _ (.sendEmail ..) _ => isTrue trivial
  | .commit _ _ F => inferInstanceAs (Decidable (∀ w ∈ F, ∀ id ∈ w.used, Unused c.db id))
  | .internal | .fault _ | .unsent .. => isTrue trivial

/-! ## A code that is compared has attempts left -/

/-- The code was read with attempts left. -/
def Left : Event GuestStmt GuestCall GuestCall.Reply → Prop
  | .answered (.timingSafeEqual claim _) _ => claim.attempts < 5
  | .failed (.timingSafeEqual claim _) => claim.attempts < 5
  | _ => True

theorem attempts_of_usableCode {d : GuestDb} {email : String} {now : Nat} {claim : GuestClaimCode}
    (h : usableCode d email now = some claim) : claim.attempts < 5 := by
  have mem := (List.perm_insertionSort _ _).mem_iff.1 (List.mem_of_head? h)
  exact (of_decide_eq_true (List.mem_filter.1 mem).2).2.2.1

theorem makes_outside {α : Type} (f : GuestDb → α) :
    Makes Left (outside f : GuestAction α) fun a => ∃ d, a = f d :=
  .outside (fun d => ⟨d, rfl⟩) fun _ => trivial

theorem makes_query {α : Type} (f : GuestDb → α) : Makes Left (query f : GuestAction α) fun _ => True :=
  .query fun _ => trivial

theorem makes_statement (w : GuestStmt) : Makes Left (statement w : GuestAction Unit) fun _ => True :=
  .statement fun _ => trivial

theorem makes_sendEmail (email code : String) : Makes Left (sendEmail email code) fun _ => True :=
  .request (fun _ => trivial) trivial

theorem makes_timingSafeEqual {claim : GuestClaimCode} (left : claim.attempts < 5) (submittedHash : String) :
    Makes Left (timingSafeEqual claim submittedHash) fun _ => True :=
  .request (fun _ => left) left

theorem makes_verifiedUser (userId message : String) :
    Makes Left (verifiedUser userId message) fun _ => True :=
  (makes_outside _).bind fun _ _ => .orThrow fun _ _ => trivial

theorem makes_requestClaimCode (config : ClaimConfig) (userId code newId : String) :
    Makes Left (GuestPaymentService.requestClaimCode config userId code newId) fun _ => True := by
  unfold GuestPaymentService.requestClaimCode
  refine (makes_verifiedUser _ _).bind fun user _ => (makes_outside _).bind fun guests _ => ?_
  refine .whenSome fun guest _ => (makes_query _).bind fun _ _ => (makes_outside _).bind fun _ _ => ?_
  refine (Makes.ensure _).bind fun _ _ => (makes_query _).bind fun _ _ => ?_
  refine (makes_statement _).bind fun _ _ => ?_
  refine (makes_sendEmail _ _).bind fun sent _ => ?_
  exact .when fun _ => (makes_statement _).bind fun _ _ => .throw _

theorem adds_recordDue (profile : StudentProfile) (payment : Payment) (new : NewDueRecord) :
    Adds Left (recordDue profile payment new) fun _ _ => True := by
  unfold recordDue
  cases payment.guestDueId.filter (· ≠ "") with
  | none => exact .ret trivial
  | some dueId =>
    refine .query_bind fun d => ?_
    cases (d.dues.find? fun due => due.id = dueId ∧ due.deletedAt = none).filter
        fun due => due.organizationId = payment.organizationId with
    | none => exact .ret trivial
    | some due =>
      refine .exec_bind (.query_bind fun d => .orThrow_bind fun assignment _ => .query_bind fun d' => ?_)
      unfold Prog.when
      split
      · exact .exec trivial
      · exact .ret trivial

theorem adds_claimGuest (user : User) (profile : Option StudentProfile) (now : Nat)
    (new : (paymentId : String) → NewDueRecord) (guest : GuestPayer) :
    Adds Left (claimGuest user profile now new guest) fun _ _ => True := by
  unfold claimGuest
  refine .query_bind fun d => .exec_bind (.exec_bind (.exec_bind ?_))
  refine .bind (G := fun _ _ => True) ?_ fun _ _ _ => .exec trivial
  cases profile with
  | none => exact .ret trivial
  | some profile => exact .forEach fun payment _ => adds_recordDue profile payment _

theorem makes_verifyClaimCode (config : ClaimConfig) (userId code : String)
    (new : (paymentId : String) → NewDueRecord) :
    Makes Left (GuestPaymentService.verifyClaimCode config userId code new) fun _ => True := by
  unfold GuestPaymentService.verifyClaimCode
  refine (makes_verifiedUser _ _).bind fun user _ => (makes_query _).bind fun now _ => ?_
  refine (makes_outside _).bind fun found read => ?_
  refine (Makes.orThrow (S := fun claim => claim.attempts < 5) fun claim hclaim => ?_).bind fun claim left => ?_
  · obtain ⟨d, rfl⟩ := read
    exact attempts_of_usableCode hclaim
  refine (makes_timingSafeEqual left _).bind fun validCode _ => ?_
  refine (Makes.when fun _ => (makes_statement _).bind fun _ _ => .throw _).bind fun _ _ => ?_
  refine (makes_outside _).bind fun guests _ => (makes_query _).bind fun _ _ => ?_
  refine .transaction (G := fun _ _ => True) ?_ fun _ _ _ _ => ⟨trivial, trivial⟩
  exact .bind (G := fun _ _ => True) (.forEach fun guest _ => adds_claimGuest _ _ _ _ guest) fun _ _ _ => .exec trivial

theorem adds_payDue (pendingPayment : PendingPayment) (paymentId duePaymentId : String) :
    Adds Left (payDue pendingPayment paymentId duePaymentId) fun _ _ => True := by
  unfold payDue
  refine .query_bind fun d => ?_
  cases (pendingPayment.dueAssignmentId.bind d.dueAssignments.find).filter fun a => a.isPaid = false with
  | none => exact .ret trivial
  | some dueAssignment =>
    refine .query_bind fun _ => .exec_bind ?_
    unfold Prog.when
    split
    · exact .exec trivial
    · exact .ret trivial

theorem makes_completePayment (pendingPaymentId paymentId duePaymentId receiptId : String) :
    Makes Left (Guests.completePayment pendingPaymentId paymentId duePaymentId receiptId) fun _ => True := by
  unfold Guests.completePayment
  refine Makes.bind (S := fun _ => True)
    (.transaction (G := fun _ _ => True) ?_ fun _ _ _ _ => ⟨trivial, trivial⟩) fun payment _ => .attempt ?_
  · unfold recordPayment
    refine .query_bind fun _ => .orThrow_bind fun pendingPayment _ => .query_bind fun d => ?_
    cases d.payments.findFirst fun p => p.reference = pendingPayment.reference with
    | some payment => exact .ret trivial
    | none =>
      refine .ensure_bind fun _ => .exec_bind ?_
      refine .bind (adds_payDue _ _ _) fun _ _ _ => ?_
      exact .exec_bind (.exec_bind (.ret trivial))
  · unfold generateReceipt
    refine (makes_outside _).bind fun _ _ => Makes.bind (S := fun _ => True) (.orThrow fun _ _ => trivial) fun _ _ => ?_
    refine (makes_outside _).bind fun _ _ => (Makes.ensure _).bind fun _ _ => ?_
    exact (makes_outside _).bind fun _ _ => .when fun _ => makes_statement _

theorem GuestOp.makes (config : ClaimConfig) (op : GuestOp) : Makes Left (op.program config) fun _ => True := by
  cases op with
  | requestClaimCode userId code newId => exact makes_requestClaimCode config userId code newId
  | verifyClaimCode userId code new => exact makes_verifyClaimCode config userId code new
  | completePayment pendingPaymentId paymentId duePaymentId receiptId =>
    exact makes_completePayment pendingPaymentId paymentId duePaymentId receiptId
  | createStudentProfile userId newId => exact makes_statement _
  | tick ms => exact makes_statement _

/-! ## What the statements do to the codes -/

/-- The code is or was there. -/
def Known (d : GuestDb) (id : String) : Prop := (d.claimCodes.find id).isSome = true ∨ id ∈ d.deletedCodes

/-- The code can no longer be used for the first time. -/
def Gone (d : GuestDb) (id : String) : Prop := Known d id ∧ ¬Unused d id

/-- The statement is about no claim code. -/
def GuestStmt.otherThanCode : GuestStmt → Bool
  | createClaimCode _ | deleteClaimCode _ | incrementAttempts _ | useClaimCode .. => false
  | _ => true

theorem codes_apply {w : GuestStmt} (h : w.otherThanCode = true) (d : GuestDb) :
    (w.apply d).claimCodes = d.claimCodes ∧ (w.apply d).deletedCodes = d.deletedCodes := by
  cases w with
  | upsertDueAssignment a =>
    simp only [GuestStmt.apply]
    split <;> exact ⟨rfl, rfl⟩
  | createClaimCode _ | deleteClaimCode _ | incrementAttempts _ | useClaimCode _ _ => cases h
  | _ => exact ⟨rfl, rfl⟩

theorem unknown_of_createClaimCode {d : GuestDb} {c : GuestClaimCode}
    (valid : (GuestStmt.createClaimCode c).check d = none) : ¬Known d c.id := by
  intro known
  simp only [GuestStmt.check, if_pos (show (d.claimCodes.find c.id).isSome = true ∨ _ from known)] at valid
  cases valid

theorem free_of_unknown {d : GuestDb} {id : String} (h : ¬Known d id) : d.claimCodes.find id = none := by
  rw [← Option.not_isSome_iff_eq_none]
  exact fun present => h (.inl present)

theorem find_of_existing {α : Type} {row : Option α} (h : GuestStmt.existing row = none) :
    ∃ r, row = some r := by
  cases row with
  | some r => exact ⟨r, rfl⟩
  | none => cases h

/-- What each statement about codes leaves of a code. -/
theorem find_createClaimCode {d : GuestDb} {c : GuestClaimCode} (free : d.claimCodes.find c.id = none)
    (id : String) : ((GuestStmt.createClaimCode c).apply d).claimCodes.find id =
      if c.id = id then some c else d.claimCodes.find id := Table.find_insert free id

theorem find_deleteClaimCode (d : GuestDb) (id j : String) :
    ((GuestStmt.deleteClaimCode id).apply d).claimCodes.find j =
      if j = id then none else d.claimCodes.find j := Table.find_erase _ _ _

theorem find_incrementAttempts (d : GuestDb) (id j : String) :
    ((GuestStmt.incrementAttempts id).apply d).claimCodes.find j =
      if j = id then (d.claimCodes.find j).map .miss else d.claimCodes.find j :=
  Table.find_modify _ _ GuestClaimCode.miss (fun _ => rfl) _

theorem find_useClaimCode (d : GuestDb) (id : String) (at_ : Nat) (j : String) :
    ((GuestStmt.useClaimCode id at_).apply d).claimCodes.find j =
      if j = id then (d.claimCodes.find j).map (.use at_) else d.claimCodes.find j :=
  Table.find_modify _ _ (GuestClaimCode.use at_) (fun _ => rfl) _

theorem known_apply {d : GuestDb} {w : GuestStmt} (valid : w.check d = none) {id : String}
    (h : Known d id) : Known (w.apply d) id := by
  cases hw : w.otherThanCode with
  | true =>
    obtain ⟨codes, deleted⟩ := codes_apply hw d
    unfold Known
    rwa [codes, deleted]
  | false =>
    cases w with
    | createClaimCode c =>
      refine h.imp_left fun present => ?_
      rw [find_createClaimCode (free_of_unknown (unknown_of_createClaimCode valid))]
      split
      · rfl
      · exact present
    | deleteClaimCode id' =>
      by_cases same : id = id'
      · exact .inr (same ▸ List.mem_cons_self)
      · refine h.imp (fun present => ?_) (List.mem_cons_of_mem _)
        rw [find_deleteClaimCode, if_neg same]
        exact present
    | incrementAttempts id' =>
      refine h.imp_left fun present => ?_
      rw [find_incrementAttempts]
      split
      · rwa [Option.isSome_map]
      · exact present
    | useClaimCode id' at_ =>
      refine h.imp_left fun present => ?_
      rw [find_useClaimCode]
      split
      · rwa [Option.isSome_map]
      · exact present
    | _ => cases hw

theorem gone_apply {d : GuestDb} {w : GuestStmt} (valid : w.check d = none) {id : String}
    (h : Gone d id ∨ w.used = some id) : Gone (w.apply d) id := by
  cases hw : w.otherThanCode with
  | true =>
    obtain ⟨codes, deleted⟩ := codes_apply hw d
    rcases h with h | h
    · unfold Gone Known Unused
      rwa [codes, deleted]
    · cases w with
      | useClaimCode _ _ => cases hw
      | _ => cases h
  | false =>
    cases w with
    | createClaimCode c =>
      rcases h with ⟨known, used⟩ | h
      · refine ⟨known_apply valid known, ?_⟩
        have fresh := unknown_of_createClaimCode valid
        unfold Unused
        have other : c.id ≠ id := by
          rintro rfl
          exact fresh known
        rw [find_createClaimCode (free_of_unknown fresh), if_neg other]
        exact used
      · cases h
    | deleteClaimCode id' =>
      rcases h with ⟨known, used⟩ | h
      · refine ⟨known_apply valid known, ?_⟩
        unfold Unused
        rw [find_deleteClaimCode]
        split
        · exact Bool.false_ne_true
        · exact used
      · cases h
    | incrementAttempts id' =>
      rcases h with ⟨known, used⟩ | h
      · refine ⟨known_apply valid known, ?_⟩
        unfold Unused
        rw [find_incrementAttempts]
        split
        · rwa [Option.any_map]
        · exact used
      · cases h
    | useClaimCode id' at_ =>
      obtain ⟨r, found⟩ := find_of_existing valid
      have known : Known d id := by
        rcases h with h | h
        · exact h.1
        · obtain rfl := Option.some.inj h
          exact .inl (Option.isSome_iff_exists.2 ⟨r, found⟩)
      refine ⟨known_apply valid known, ?_⟩
      unfold Unused
      rw [find_useClaimCode]
      split
      · rename_i same
        rw [same, found]
        exact Bool.false_ne_true
      · rename_i other
        rcases h with h | h
        · exact h.2
        · exact absurd (Option.some.inj h).symm other
    | _ => cases hw

theorem gone_applyAll {F : List GuestStmt} {d : GuestDb} (valid : violation F d = none) {id : String}
    (h : Gone d id ∨ ∃ w ∈ F, w.used = some id) : Gone (applyAll F d) id := by
  induction F generalizing d with
  | nil => exact h.resolve_right fun ⟨_, hw, _⟩ => absurd hw List.not_mem_nil
  | cons w F ih =>
    obtain ⟨ok, valid⟩ := violation_cons.1 valid
    refine ih valid ?_
    rcases h with h | ⟨w', hw', used⟩
    · exact .inl (gone_apply ok (.inl h))
    · rcases List.mem_cons.1 hw' with rfl | hw'
      · exact .inl (gone_apply ok (.inr used))
      · exact .inr ⟨w', hw', used⟩

/-- The misses that were counted are among the attempts. -/
structure Tally (d : GuestDb) (n : String → Nat) : Prop where
  attempts : ∀ r ∈ d.claimCodes.rows, n r.id ≤ r.attempts
  unknown : ∀ id, ¬Known d id → n id = 0

theorem tally_apply {d : GuestDb} {w : GuestStmt} (valid : w.check d = none) {n : String → Nat}
    (h : Tally d n) :
    Tally (w.apply d) fun id => n id + if w = .incrementAttempts id then 1 else 0 := by
  have unknown (quiet : ∀ id, w ≠ .incrementAttempts id) (id : String) (fresh : ¬Known (w.apply d) id) :
      n id + (if w = .incrementAttempts id then 1 else 0) = 0 := by
    rw [if_neg (quiet id), h.unknown id fun known => fresh (known_apply valid known)]
  cases hw : w.otherThanCode with
  | true =>
    have quiet (id : String) : w ≠ .incrementAttempts id := by
      rintro rfl
      cases hw
    refine ⟨fun r hr => ?_, unknown quiet⟩
    rw [(codes_apply hw d).1] at hr
    rw [if_neg (quiet _)]
    exact h.attempts r hr
  | false =>
    cases w with
    | createClaimCode c =>
      refine ⟨fun r hr => ?_, unknown (by simp)⟩
      have fresh := unknown_of_createClaimCode valid
      change r ∈ (d.claimCodes.insert c).rows at hr
      rw [Table.insert_rows (free_of_unknown fresh)] at hr
      rcases List.mem_append.1 hr with hr | hr
      · exact h.attempts r hr
      · obtain rfl := List.mem_singleton.1 hr
        show n r.id + 0 ≤ _
        rw [h.unknown r.id fresh]
        exact Nat.zero_le _
    | deleteClaimCode id' =>
      exact ⟨fun r hr => h.attempts r (List.mem_filter.1 hr).1, unknown (by simp)⟩
    | incrementAttempts id' =>
      refine ⟨fun r hr => ?_, fun id fresh => ?_⟩
      · obtain ⟨r₀, hr₀, rfl⟩ := List.mem_map.1 hr
        have old := h.attempts r₀ hr₀
        split
        · show n r₀.id + _ ≤ r₀.attempts + 1
          split <;> omega
        · rename_i other
          rw [if_neg fun same => other (GuestStmt.incrementAttempts.inj same).symm]
          exact old
      · have gone : ¬Known d id := fun known => fresh (known_apply valid known)
        rw [h.unknown id gone, if_neg]
        rintro ⟨⟩
        obtain ⟨r, found⟩ := find_of_existing valid
        exact gone (.inl (Option.isSome_iff_exists.2 ⟨r, found⟩))
    | useClaimCode id' at_ =>
      refine ⟨fun r hr => ?_, unknown (by simp)⟩
      obtain ⟨r₀, hr₀, rfl⟩ := List.mem_map.1 hr
      have old := h.attempts r₀ hr₀
      split
      · exact old
      · exact old
    | _ => cases hw

theorem tally_applyAll {F : List GuestStmt} {d : GuestDb} (valid : violation F d = none) {n : String → Nat}
    (h : Tally d n) : Tally (applyAll F d) fun id => n id + F.count (.incrementAttempts id) := by
  induction F generalizing d n with
  | nil => exact h
  | cons w F ih =>
    obtain ⟨ok, valid⟩ := violation_cons.1 valid
    have next := ih valid (tally_apply ok h)
    refine ⟨fun r hr => ?_, fun id fresh => ?_⟩
    · have := next.attempts r hr
      rw [List.count_cons]
      simp only [beq_iff_eq]
      omega
    · have := next.unknown id fresh
      rw [List.count_cons]
      simp only [beq_iff_eq]
      omega

/-! ## Runs -/

/-- What every step of a run in turn keeps. -/
structure Bounds (c : GuestSystem) : Prop where
  bounded : ClaimCodesBounded c.ext c.log
  tally : Tally c.db (counted c.log)
  gone : ∀ id, 0 < claimsWith c.log id → Gone c.db id

theorem counted_append (log : GuestLog) (e : Commit GuestDb GuestStmt) (id : String) :
    counted (log ++ [e]) id = counted log id + e.writes.count (.incrementAttempts id) := by
  simp [counted]

theorem claimsWith_append (log : GuestLog) (e : Commit GuestDb GuestStmt) (id : String) :
    claimsWith (log ++ [e]) id =
      claimsWith log id + if ∃ w ∈ e.writes, w.used = some id then 1 else 0 := by
  simp [claimsWith, List.countP_append, List.countP_cons]

theorem wrong_compared (x : Outside) (claim : GuestClaimCode) (submittedHash id : String) :
    wrong (External.handle (GuestCall.timingSafeEqual claim submittedHash) x).1 id ≤
      wrong x id + if claim.id = id then 1 else 0 := by
  show (x.compared ++ [(claim.id, decide (claim.codeHash = submittedHash))]).count (id, false) ≤ _
  rw [List.count_append, List.count_singleton, wrong]
  by_cases same : claim.id = id
  · rw [if_pos same]
    split <;> omega
  · rw [if_neg same, if_neg]
    simp [same]

theorem Bounds.congr {c c' : GuestSystem} (h : Bounds c) (db : c'.db = c.db) (ext : c'.ext = c.ext)
    (log : c'.log = c.log) : Bounds c' := by
  refine ⟨?_, ?_, ?_⟩
  · rw [ext, log]
    exact h.bounded
  · rw [db, log]
    exact h.tally
  · rw [db, log]
    exact h.gone

/-- A commit that uses codes only while they are unused. -/
theorem bounds_of_commit {c c' : GuestSystem} {F : List GuestStmt} {i : Nat} (h : Bounds c)
    (valid : violation F c.db = none) (unused : ∀ w ∈ F, ∀ id ∈ w.used, Unused c.db id)
    (db : c'.db = applyAll F c.db) (ext : c'.ext = c.ext) (log : c'.log = c.log ++ [⟨i, F, c.db⟩]) :
    Bounds c' := by
  refine ⟨⟨fun id => ?_, fun id => ?_⟩, ?_, fun id claimed => ?_⟩
  · rw [ext]
    exact h.bounded.guesses id
  · rw [log, claimsWith_append]
    split
    · rename_i used
      obtain ⟨w, hw, used⟩ := used
      have first : ¬0 < claimsWith c.log id := fun claimed => (h.gone id claimed).2 (unused w hw id used)
      omega
    · exact h.bounded.claims id
  · have counts : counted c'.log = fun id => counted c.log id + F.count (.incrementAttempts id) := by
      funext id
      rw [log, counted_append]
    rw [counts, db]
    exact tally_applyAll valid h.tally
  · rw [log, claimsWith_append] at claimed
    rw [db]
    refine gone_applyAll valid ?_
    by_cases used : ∃ w ∈ F, w.used = some id
    · exact .inr used
    · rw [if_neg used] at claimed
      exact .inl (h.gone id claimed)

/-- A comparison of a code whose misses are all among its attempts. -/
theorem bounds_of_compared {c c' : GuestSystem} {claim : GuestClaimCode} {submittedHash : String}
    (h : Bounds c) (left : claim.attempts < 5)
    (current : (c.db.claimCodes.find claim.id).map GuestClaimCode.attempts = some claim.attempts)
    (told : wrong c.ext claim.id = counted c.log claim.id) (db : c'.db = c.db)
    (ext : c'.ext = (External.handle (GuestCall.timingSafeEqual claim submittedHash) c.ext).1)
    (log : c'.log = c.log) : Bounds c' := by
  refine ⟨⟨fun id => ?_, fun id => log ▸ h.bounded.claims id⟩, ?_, fun id => ?_⟩
  · rw [ext]
    have more := wrong_compared c.ext claim submittedHash id
    by_cases same : claim.id = id
    · subst same
      obtain ⟨r, found, attempts⟩ := Option.map_eq_some_iff.1 current
      have missed := h.tally.attempts r (Table.find_mem found)
      rw [Table.find_key found, attempts] at missed
      rw [if_pos rfl] at more
      omega
    · have := h.bounded.guesses id
      rw [if_neg same] at more
      omega
  · rw [db, log]
    exact h.tally
  · rw [db, log]
    exact h.gone id

/-- **Guessing bound.** In a run from a state in which nothing has been compared,
whose comparisons and claims are made in turn, a code is compared with at most five
wrong submissions and leads to at most one claim. -/
theorem claim_codes_bounded {config : ClaimConfig} {db : GuestDb} {mailWorks : Bool} {ops : List GuestOp}
    {c : GuestSystem}
    (run : Reaches InTurn (Config.start db { mailWorks } (ops.map (·.program config))) c) :
    ClaimCodesBounded c.ext c.log := by
  refine (run.invariant_of_makes (P := fun _ => Left) (fun i p hp => ?_) Bounds ?_
    fun {c c' eff} moves inTurn h => ?_).bounded
  · obtain ⟨op, -, rfl⟩ := List.mem_map.1 (List.mem_of_getElem? hp)
    exact op.makes config
  · refine ⟨⟨fun id => Nat.zero_le _, fun id => Nat.zero_le _⟩, ?_, fun id claimed => ?_⟩
    · exact ⟨fun _ _ => Nat.zero_le _, fun _ _ => rfl⟩
    · exact absurd claimed (Nat.lt_irrefl 0)
  · cases moves with
    | internal silent db ext past log =>
      exact h.congr db (ext.resolve_right fun ⟨m, _⟩ => m.elim) log
    | commit i nested F admitted valid db ext past log =>
      exact bounds_of_commit h valid inTurn db ext log
    | called i call answered admitted db ext past log =>
      cases call with
      | sendEmail email code => exact h.congr db ext log
      | timingSafeEqual claim submittedHash =>
        have left : claim.attempts < 5 := by cases answered <;> exact admitted
        exact bounds_of_compared h left inTurn.1 inTurn.2 db ext log
    | unsent i call admitted db ext past log => exact h.congr db ext log

/-- Submissions that are hashed as they are. -/
def plainCodes : ClaimConfig where
  normalizeEmail email := email
  codeHash code _ := code

/-- One guest with the email of the user, and a code. -/
def oneCode : GuestDb where
  users := [⟨"u", "mail", true⟩]
  guestPayers := Table.empty.insert { id := "g", email := "mail", placeholderUserId := "p" }
  claimCodes := Table.empty.insert
    { id := "k", guestPayerId := "g", codeHash := "right", expiresAt := 1000, createdAt := 0 }

/-- The user submits codes. -/
def submissions (codes : List String) : List GuestOp :=
  codes.map fun code => .verifyClaimCode "u" code fun _ => ⟨"a", "d"⟩

/-- Submissions before anything has been compared. -/
abbrev submits (codes : List String) : GuestSystem :=
  Config.start oneCode {} ((submissions codes).map (·.program plainCodes))

/-- One after the other, a wrong submission is counted and the right one claims. -/
theorem guess_then_claim : ∃ c, Reaches InTurn (submits ["wrong", "right"]) c ∧
    c.threads.map Thread.returned = [false, true] ∧ wrong c.ext "k" = 1 ∧ claimsWith c.log "k" = 1 ∧
    ClaimCodesBounded c.ext c.log := by
  obtain ⟨c, run, hc⟩ := Reaches.of_replay_any InTurn (submits ["wrong", "right"])
    (takeTurns Empty GuestError [(0, 11), (1, 20)])
    (fun c : GuestSystem => c.threads.map Thread.returned = [false, true] ∧ wrong c.ext "k" = 1 ∧
      claimsWith c.log "k" = 1) (by decide +kernel)
  exact ⟨c, run, hc.1, hc.2.1, hc.2.2, claim_codes_bounded run⟩

/-- At the same time, more submissions are compared than there are attempts, and
two right ones both claim. -/
theorem guesses_race :
    (∃ c, Reaches (fun _ _ => True) (submits (List.replicate 6 "wrong")) c ∧
      c.threads.all Thread.threw = true ∧ wrong c.ext "k" = 6 ∧ ¬ClaimCodesBounded c.ext c.log) ∧
    ∃ c, Reaches (fun _ _ => True) (submits ["right", "right"]) c ∧
      c.threads.all Thread.returned = true ∧ claimsWith c.log "k" = 2 ∧
      ¬ClaimCodesBounded c.ext c.log := by
  constructor
  · obtain ⟨c, run, threw, six⟩ := Reaches.of_replay_any (fun _ _ => True)
      (submits (List.replicate 6 "wrong"))
      (takeTurns Empty GuestError ((List.range 6).map (·, 7) ++ (List.range 6).map (·, 4)))
      (fun c : GuestSystem => c.threads.all Thread.threw = true ∧ wrong c.ext "k" = 6) (by decide +kernel)
    refine ⟨c, run, threw, six, fun bounded => ?_⟩
    have five := bounded.guesses "k"
    omega
  · obtain ⟨c, run, returned, two⟩ := Reaches.of_replay_any (fun _ _ => True) (submits ["right", "right"])
      (takeTurns Empty GuestError [(0, 10), (1, 10), (0, 10), (1, 10)])
      (fun c : GuestSystem => c.threads.all Thread.returned = true ∧ claimsWith c.log "k" = 2)
      (by decide +kernel)
    refine ⟨c, run, returned, two, fun bounded => ?_⟩
    have one := bounded.claims "k"
    omega

end Heightt.Guests
