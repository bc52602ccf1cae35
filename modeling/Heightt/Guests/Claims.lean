import Heightt.Guests.ClaimCodes
import Heightt.Guests.Ownership

/-!
# Claims and completions in turn

A guest's payments are recorded for their dues when the guest is claimed, and at
no other time. So the order of the calls matters: `Prompt` says that a guest's
payment completes before the guest is claimed, and that at a claim the user has
the student profile, with no other payment of those dues. Then all that was the
guest's is the user's and recorded.
-/

namespace Heightt.Guests

open Store ReadCommitted Prog Database GuestPaymentService

/-! ## A guest is claimed -/

/-- From `e` to `e'` the user claims the guest, and the guest's payments are recorded. -/
structure Claims (e e' : GuestDb) (g : GuestPayer) (userId : String) (now : Nat) : Prop where
  users : e'.users = e.users
  profiles : e'.studentProfiles = e.studentProfiles
  dues : e'.dues = e.dues
  guestPayers : e'.guestPayers = e.guestPayers.modify g.id (.claim userId now) fun _ => rfl
  payments : e'.payments = e.payments.mapRows (.give g.placeholderUserId userId) (id_give _ _)
  pendingPayments : e'.pendingPayments =
    e.pendingPayments.mapRows (.give g.placeholderUserId userId) (PendingPayment.id_give _ _)
  receipts : e'.receipts = e.receipts.mapRows (.give g.placeholderUserId userId) (Receipt.id_give _ _)
  sited : Sited e'
  recorded : ∀ p ∈ paymentsOf e [g], ∀ dueId ∈ p.guestDue,
    ∃ profile ∈ e.findProfile userId, RecordedFor e' profile.id dueId p.id
  kept : ∀ studentId dueId paymentId, RecordedFor e studentId dueId paymentId →
    RecordedFor e' studentId dueId paymentId
  unpaid : ∀ profile ∈ e.findProfile userId, ∀ dueId, (∀ p ∈ paymentsOf e [g], p.guestDue ≠ some dueId) →
    Unpaid e profile.id dueId → Unpaid e' profile.id dueId

theorem paymentsOf_singleton (e : GuestDb) (g : GuestPayer) :
    paymentsOf e [g] = e.payments.rows.filter fun p => p.payerId = g.placeholderUserId :=
  List.flatMap_singleton _ _

theorem inside_claimGuest {e : GuestDb} {user : User} (now : Nat)
    (new : (paymentId : String) → NewDueRecord) {g : GuestPayer} (sited : Sited e)
    (ready : Ready e user.id [g]) :
    Inside Outside (claimGuest user (e.findProfile user.id) now new g) e fun _ e' =>
      Claims e e' g user.id now := by
  obtain ⟨recordable, apart⟩ := ready
  rw [paymentsOf_singleton] at recordable apart
  refine .query_bind (.exec_bind fun _ => .exec_bind fun _ => .exec_bind fun _ => ?_)
  cases hprofile : e.findProfile user.id with
  | none =>
    refine .exec fun valid => ⟨rfl, rfl, rfl, rfl, rfl, rfl, rfl, sited, ?_, fun _ _ _ h => h,
      fun _ _ _ _ h => h⟩
    intro p hp dueId hdue
    rw [paymentsOf_singleton] at hp
    obtain ⟨-, profile, found, -⟩ := recordable p hp dueId hdue
    exact ⟨profile, found, by rw [hprofile] at found; cases found⟩
  | some profile =>
    have student {p : Payment} {dueId : String}
        (hp : p ∈ e.payments.rows.filter fun p => p.payerId = g.placeholderUserId)
        (hdue : dueId ∈ p.guestDue) : DueFound e p dueId ∧ Unpaid e profile.id dueId := by
      obtain ⟨due, profile', found, free⟩ := recordable p hp dueId hdue
      rw [hprofile] at found
      obtain rfl := Option.some.inj found
      exact ⟨due, free⟩
    refine .bind (inside_recordDues new sited (fun p hp dueId hdue => (student hp hdue).1)
      (fun p hp dueId hdue => (student hp hdue).2) apart) fun _ e₁ records => .exec fun valid => ?_
    have frame := records.frame
    refine
      { users := by rw [frame]; rfl
        profiles := by rw [frame]; rfl
        dues := by rw [frame]; rfl
        guestPayers := by rw [frame]; rfl
        payments := by rw [frame]; rfl
        pendingPayments := by rw [frame]; rfl
        receipts := by rw [frame]; rfl
        sited := records.sited
        recorded := fun p hp dueId hdue => ?_
        kept := records.kept
        unpaid := fun profile' found dueId others => ?_ }
    · rw [paymentsOf_singleton] at hp
      exact ⟨profile, hprofile, (records.recorded p hp).resolve_left List.not_mem_nil dueId hdue⟩
    · rw [hprofile] at found
      obtain rfl := Option.some.inj found
      rw [paymentsOf_singleton] at others
      exact records.unpaid dueId others

section Claims

variable {d₀ e e' : GuestDb} {g : GuestPayer} {userId : String} {now : Nat}

/-- A guest after the claim: the claimed one, or another that is as it was. -/
theorem guest_claimed (claims : Claims e e' g userId now) {g' : GuestPayer}
    (hg' : g' ∈ e'.guestPayers.rows) : ∃ g₁ ∈ e.guestPayers.rows,
      g' = if g₁.id = g.id then g₁.claim userId now else g₁ := by
  rw [claims.guestPayers] at hg'
  obtain ⟨g₁, hg₁, rfl⟩ := List.mem_map.1 hg'
  exact ⟨g₁, hg₁, rfl⟩

theorem placeholder_claim (g₁ : GuestPayer) (id : String) :
    (if g₁.id = id then g₁.claim userId now else g₁).placeholderUserId = g₁.placeholderUserId := by
  split <;> rfl

theorem findUser_claimed (claims : Claims e e' g userId now) (id : String) : e'.findUser id = e.findUser id := by
  unfold GuestDb.findUser
  rw [claims.users]

theorem findProfile_claimed (claims : Claims e e' g userId now) (id : String) :
    e'.findProfile id = e.findProfile id := by
  unfold GuestDb.findProfile
  rw [claims.profiles]

variable (h : Kept d₀ e) (claims : Claims e e' g userId now) (hg : g ∈ e.guestPayers.rows)
  (verified : ∃ u ∈ e.findUser userId, u.emailVerified = true)
include h

/-- A verified user is no placeholder. -/
theorem ne_placeholder {userId : String} (verified : ∃ u ∈ e.findUser userId, u.emailVerified = true)
    {g : GuestPayer} (hg : g ∈ e.guestPayers.rows) : userId ≠ g.placeholderUserId := by
  rintro rfl
  obtain ⟨u, hu, verified⟩ := verified
  have unverified := h.unverified g hg u hu
  rw [verified] at unverified
  cases unverified

include hg claims

theorem ownerOf_claims (unclaimed : g.claimedById = none) (owner : String) :
    e'.ownerOf owner = moveOwner g.placeholderUserId userId (e.ownerOf owner) := by
  unfold GuestDb.ownerOf
  rw [claims.guestPayers, Table.findFirst_modify _ _ (GuestPayer.claim userId now) (fun _ => rfl)
    fun _ => rfl]
  cases found : e.guestPayers.findFirst fun g => g.placeholderUserId = owner with
  | none =>
    have other := List.find?_eq_none.1 found g hg
    refine (if_neg fun same => ?_).symm
    simp [← same] at other
  | some g₁ =>
    have hg₁ := List.mem_of_find?_eq_some found
    obtain rfl : g₁.placeholderUserId = owner := by simpa using List.find?_some found
    rw [Option.map_some, Option.bind_some, Option.bind_some]
    by_cases same : g₁.id = g.id
    · obtain rfl := Table.eq_of_key hg₁ hg same
      rw [if_pos rfl, unclaimed]
      exact (if_pos rfl).symm
    · rw [if_neg same]
      refine (if_neg ?_).symm
      cases claimed : g₁.claimedById with
      | none =>
        intro placeholder
        exact same (congrArg GuestPayer.id (h.placeholders g₁ hg₁ g hg placeholder))
      | some userId' => exact ne_placeholder h (h.claimants g₁ hg₁ userId' claimed).2 hg

include verified

theorem vacated_of_claims {g' : GuestPayer} (hg' : g' ∈ e.guestPayers.rows)
    (gone : g' = g ∨ Vacated e g'.placeholderUserId) : Vacated e' g'.placeholderUserId := by
  have moved (owner : String) (still : g' = g ∨ owner ≠ g'.placeholderUserId) :
      moveOwner g.placeholderUserId userId owner ≠ g'.placeholderUserId := by
    unfold moveOwner
    split
    · exact ne_placeholder h verified hg'
    · rename_i other
      rcases still with rfl | still
      · exact other
      · exact still
  refine ⟨fun p hp => ?_, fun q hq => ?_, fun r hr => ?_⟩
  · rw [claims.payments] at hp
    obtain ⟨p₁, hp₁, rfl⟩ := List.mem_map.1 hp
    rw [payerId_give]
    exact moved _ (gone.imp_right fun vacated => vacated.payments p₁ hp₁)
  · rw [claims.pendingPayments] at hq
    obtain ⟨q₁, hq₁, rfl⟩ := List.mem_map.1 hq
    rw [userId_give]
    exact moved _ (gone.imp_right fun vacated => vacated.pendingPayments q₁ hq₁)
  · rw [claims.receipts] at hr
    obtain ⟨r₁, hr₁, rfl⟩ := List.mem_map.1 hr
    rw [Receipt.userId_give]
    exact moved _ (gone.imp_right fun vacated => vacated.receipts r₁ hr₁)

/-- A claim keeps what every call keeps: the guest's rows are the user's, and recorded. -/
theorem kept_of_claims (unclaimed : g.claimedAt = none) : Kept d₀ e' := by
  have unclaimedBy : g.claimedById = none := by
    cases claimed : g.claimedById with
    | none => rfl
    | some userId' =>
      have at_ := (h.claimants g hg userId' claimed).1
      rw [unclaimed] at at_
      cases at_
  have owner := ownerOf_claims h claims hg unclaimedBy
  refine
    { guests := fun id g₀ hg₀ => ?_
      placeholders := fun g' hg' g'' hg'' same => ?_
      unverified := fun g' hg' u hu => ?_
      claimants := fun g' hg' userId' claimed => ?_
      vacated := fun g' hg' claimed => ?_
      dues := fun p hp dueId hdue => ?_
      references := fun q hq q' hq' same => ?_
      same := fun p hp q hq same => ?_
      completed := fun q hq completed => ?_
      sited := claims.sited
      pendingPayments := fun id q₀ hq₀ => ?_
      payments := fun id p₀ hp₀ => ?_
      receipts := fun id r₀ hr₀ => ?_ }
  · obtain ⟨g₁, hg₁, placeholder⟩ := h.guests id g₀ hg₀
    rw [claims.guestPayers]
    obtain ⟨g₂, hg₂, placeholder'⟩ := Table.grows_modify (t := e.guestPayers) (k := g.id)
      (f := GuestPayer.claim userId now) (R := fun g₁ g₂ => g₂.placeholderUserId = g₁.placeholderUserId)
      (fun _ => rfl) (fun _ => rfl) (fun _ _ => rfl) id g₁ hg₁
    exact ⟨g₂, hg₂, placeholder'.trans placeholder⟩
  · obtain ⟨g₁, hg₁, rfl⟩ := guest_claimed claims hg'
    obtain ⟨g₂, hg₂, rfl⟩ := guest_claimed claims hg''
    rw [placeholder_claim, placeholder_claim] at same
    rw [h.placeholders g₁ hg₁ g₂ hg₂ same]
  · obtain ⟨g₁, hg₁, rfl⟩ := guest_claimed claims hg'
    rw [placeholder_claim, findUser_claimed claims] at hu
    exact h.unverified g₁ hg₁ u hu
  · obtain ⟨g₁, hg₁, rfl⟩ := guest_claimed claims hg'
    simp only [findUser_claimed claims]
    split at claimed
    · obtain rfl := Option.some.inj claimed
      rename_i own
      rw [if_pos own]
      exact ⟨rfl, verified⟩
    · rename_i other
      rw [if_neg other]
      exact h.claimants g₁ hg₁ userId' claimed
  · obtain ⟨g₁, hg₁, rfl⟩ := guest_claimed claims hg'
    rw [placeholder_claim]
    refine vacated_of_claims h claims hg verified hg₁ ?_
    split at claimed
    · rename_i own
      exact .inl (Table.eq_of_key hg₁ hg own)
    · exact .inr (h.vacated g₁ hg₁ claimed)
  · rw [claims.payments] at hp
    obtain ⟨p₁, hp₁, rfl⟩ := List.mem_map.1 hp
    have due : (p₁.give g.placeholderUserId userId).guestDue = p₁.guestDue := by
      unfold Payment.give
      split <;> rfl
    rw [due] at hdue
    unfold Recorded
    rw [payerId_give, id_give, findProfile_claimed claims]
    by_cases own : p₁.payerId = g.placeholderUserId
    · rw [moveOwner, if_pos own]
      refine .inr (claims.recorded p₁ ?_ dueId hdue)
      rw [paymentsOf_singleton]
      exact List.mem_filter.2 ⟨hp₁, decide_eq_true own⟩
    · rw [moveOwner, if_neg own]
      refine (h.dues p₁ hp₁ dueId hdue).imp ?_ ?_
      · rintro ⟨g₁, hg₁, free, placeholder⟩
        have other : g₁.id ≠ g.id := fun same => own (by rw [← placeholder, Table.eq_of_key hg₁ hg same])
        refine ⟨g₁, ?_, free, placeholder⟩
        rw [claims.guestPayers]
        exact List.mem_map.2 ⟨g₁, hg₁, if_neg other⟩
      · rintro ⟨profile, hprofile, record⟩
        exact ⟨profile, hprofile, claims.kept _ _ _ record⟩
  · rw [claims.pendingPayments] at hq hq'
    obtain ⟨q₁, hq₁, rfl⟩ := List.mem_map.1 hq
    obtain ⟨q₂, hq₂, rfl⟩ := List.mem_map.1 hq'
    rw [reference_give, reference_give] at same
    rw [h.references q₁ hq₁ q₂ hq₂ same]
  · rw [claims.payments] at hp
    rw [claims.pendingPayments] at hq
    obtain ⟨p₁, hp₁, rfl⟩ := List.mem_map.1 hp
    obtain ⟨q₁, hq₁, rfl⟩ := List.mem_map.1 hq
    rw [Payment.reference_give, reference_give] at same
    obtain ⟨payer, due⟩ := h.same p₁ hp₁ q₁ hq₁ same
    rw [payerId_give, userId_give, payer, Payment.guestDueId_give, guestDueId_give]
    exact ⟨rfl, due⟩
  · rw [claims.pendingPayments] at hq
    obtain ⟨q₁, hq₁, rfl⟩ := List.mem_map.1 hq
    obtain ⟨p₁, hp₁, same⟩ := h.completed q₁ hq₁ (by rwa [status_give] at completed)
    refine ⟨p₁.give g.placeholderUserId userId, ?_, ?_⟩
    · rw [claims.payments]
      exact List.mem_map_of_mem hp₁
    · rw [Payment.reference_give, reference_give, same]
  · obtain ⟨q₁, hq₁, reference, due, user⟩ := h.pendingPayments id q₀ hq₀
    refine ⟨q₁.give g.placeholderUserId userId, ?_, ?_, ?_, ?_⟩
    · rw [claims.pendingPayments, Table.find_mapRows, hq₁]
      rfl
    · rw [reference_give, reference]
    · rw [guestDueId_give, due]
    · rw [userId_give, user, owner]
  · obtain ⟨p₁, hp₁, due, payer⟩ := h.payments id p₀ hp₀
    refine ⟨p₁.give g.placeholderUserId userId, ?_, ?_, ?_⟩
    · rw [claims.payments, Table.find_mapRows, hp₁]
      rfl
    · rw [Payment.guestDueId_give, due]
    · rw [payerId_give, payer, owner]
  · obtain ⟨r₁, hr₁, user⟩ := h.receipts id r₀ hr₀
    refine ⟨r₁.give g.placeholderUserId userId, ?_, ?_⟩
    · rw [claims.receipts, Table.find_mapRows, hr₁]
      rfl
    · show (r₁.give g.placeholderUserId userId).userId = _
      rw [Receipt.userId_give, user, owner]

omit claims hg verified h in
theorem filter_give {a b c : String} (hca : c ≠ a) (hcb : c ≠ b) (ps : List Payment) :
    ((ps.map (.give a b)).filter fun p => p.payerId = c) = ps.filter fun p => p.payerId = c := by
  induction ps with
  | nil => rfl
  | cons p ps ih =>
    rw [List.map_cons, List.filter_cons, List.filter_cons, ih]
    by_cases own : p.payerId = a
    · have moved : (p.give a b).payerId = b := by rw [payerId_give, moveOwner, if_pos own]
      rw [if_neg (by simpa [moved] using hcb.symm), if_neg (by simpa [own] using hca.symm)]
    · have same : p.give a b = p := if_neg own
      rw [same]

omit verified in
theorem ready_of_claims (verified : ∃ u ∈ e.findUser userId, u.emailVerified = true) {rest : List GuestPayer}
    (others : ∀ g' ∈ rest, g' ∈ e.guestPayers.rows ∧ g' ≠ g) (ready : Ready e userId (g :: rest)) :
    Ready e' userId rest := by
  have split_ : paymentsOf e (g :: rest) = paymentsOf e [g] ++ paymentsOf e rest := by
    simp [paymentsOf]
  have same : paymentsOf e' rest = paymentsOf e rest := by
    refine List.flatMap_congr fun g' hg' => ?_
    obtain ⟨mem, other⟩ := others g' hg'
    rw [claims.payments]
    refine filter_give (fun placeholder => other ?_) (ne_placeholder h verified mem).symm _
    exact h.placeholders g' mem g hg placeholder
  obtain ⟨recordable, apart⟩ := ready
  rw [split_] at recordable apart
  obtain ⟨-, apart, across⟩ := List.pairwise_append.1 apart
  refine ⟨fun p hp dueId hdue => ?_, by rwa [same]⟩
  rw [same] at hp
  obtain ⟨due, profile, hprofile, free⟩ := recordable p (List.mem_append_right _ hp) dueId hdue
  refine ⟨?_, profile, by rwa [findProfile_claimed claims], ?_⟩
  · unfold DueFound
    rw [claims.dues]
    exact due
  · exact claims.unpaid profile hprofile dueId
      (fun p' hp' hdue' => across p' hp' p hp dueId hdue' hdue) free

end Claims

/-- While the guests are claimed: what holds of those that are left. -/
structure Claiming (d₀ : GuestDb) (user : User) (profile : Option StudentProfile) (guests : List GuestPayer)
    (e : GuestDb) : Prop where
  kept : Kept d₀ e
  profile : e.findProfile user.id = profile
  verified : ∃ u ∈ e.findUser user.id, u.emailVerified = true
  left : ∀ g ∈ guests, g ∈ e.guestPayers.rows ∧ g.claimedAt = none
  nodup : guests.Nodup
  ready : Ready e user.id guests

theorem inside_claimGuests {d₀ e : GuestDb} {user : User} {profile : Option StudentProfile}
    {guests : List GuestPayer} (start : Claiming d₀ user profile guests e) (claim : GuestClaimCode) (now : Nat)
    (new : (paymentId : String) → NewDueRecord) :
    Inside Outside (claimGuests user profile claim guests now new) e fun _ e' => Kept d₀ e' := by
  refine .bind (.forEach (I := Claiming d₀ user profile) start fun g guests e₁ h => ?_) fun _ e' h =>
    .exec fun valid => (aside_apply rfl valid).kept h.kept
  obtain ⟨hg, unclaimed⟩ := h.left g List.mem_cons_self
  obtain ⟨fresh, nodup⟩ := List.nodup_cons.1 h.nodup
  have first : Ready e₁ user.id [g] := by
    have split_ : paymentsOf e₁ (g :: guests) = paymentsOf e₁ [g] ++ paymentsOf e₁ guests := by
      simp [paymentsOf]
    obtain ⟨recordable, apart⟩ := h.ready
    rw [split_] at recordable apart
    exact ⟨fun p hp => recordable p (List.mem_append_left _ hp), (List.pairwise_append.1 apart).1⟩
  have others : ∀ g' ∈ guests, g' ∈ e₁.guestPayers.rows ∧ g' ≠ g := by
    intro g' hg'
    refine ⟨(h.left g' (List.mem_cons_of_mem _ hg')).1, ?_⟩
    rintro rfl
    exact fresh hg'
  rw [← h.profile]
  refine (inside_claimGuest now new h.kept.sited first).mono fun _ e₂ claims => ?_
  refine
    { kept := kept_of_claims h.kept claims hg h.verified unclaimed
      profile := (findProfile_claimed claims _).trans rfl
      verified := by rw [findUser_claimed claims]; exact h.verified
      left := fun g' hg' => ⟨?_, (h.left g' (List.mem_cons_of_mem _ hg')).2⟩
      nodup
      ready := ready_of_claims h.kept claims hg h.verified others h.ready }
  obtain ⟨mem, other⟩ := others g' hg'
  rw [claims.guestPayers]
  exact List.mem_map.2 ⟨g', mem, if_neg fun same => other (Table.eq_of_key mem hg same)⟩

theorem findGuests_unclaimed {d : GuestDb} {email : String} {g : GuestPayer} (hg : g ∈ findGuests d email) :
    g ∈ d.guestPayers.rows ∧ g.claimedAt = none := by
  have mem := (List.perm_insertionSort _ _).mem_iff.1 hg
  obtain ⟨mem, matches_⟩ := List.mem_filter.1 mem
  exact ⟨mem, (of_decide_eq_true matches_).2⟩

theorem nodup_findGuests (d : GuestDb) (email : String) : (findGuests d email).Nodup :=
  (List.perm_insertionSort _ _).nodup_iff.2 (d.guestPayers.nodup.of_map.filter _)

section Turns

variable {d₀ d : GuestDb} {x : Outside} {config : ClaimConfig}

theorem turns_verifiedUser_bind {userId message : String} {f : User × Option StudentProfile → GuestAction Unit}
    (h : Kept d₀ d)
    (hf : ∀ user, d.findUser userId = some user → user.emailVerified = true →
      Turns (f (user, d.findProfile userId)) d x (fun _ d' _ => Kept d₀ d') fun d' _ => Kept d₀ d') :
    Turns ((verifiedUser userId message).bind f) d x (fun _ d' _ => Kept d₀ d')
      fun d' _ => Kept d₀ d' := by
  unfold verifiedUser
  rw [bind_eq, Prog.bind_assoc]
  refine .outside_bind h (.orThrow_bind h fun found hfound => ?_)
  obtain ⟨hfound, verified⟩ := Option.filter_eq_some_iff.1 hfound
  obtain ⟨user, huser, rfl⟩ := Option.map_eq_some_iff.1 hfound
  exact hf user huser verified

theorem turns_aside {w : GuestStmt} (h : Kept d₀ d) (aside : w.aside = true) :
    Turns (statement w : GuestAction Unit) d x (fun _ d' _ => Kept d₀ d') fun d' _ => Kept d₀ d' :=
  .statement (fun valid => (aside_apply aside valid).kept h) h

theorem turns_sendEmail (h : Kept d₀ d) (email code : String) :
    Turns (sendEmail email code) d x (fun _ d' _ => Kept d₀ d') fun d' _ => Kept d₀ d' :=
  .request (c := GuestCall.sendEmail email code) h h h

theorem turns_timingSafeEqual (h : Kept d₀ d) (claim : GuestClaimCode) (submittedHash : String) :
    Turns (timingSafeEqual claim submittedHash) d x
      (fun validCode d' _ => d' = d ∧ validCode = decide (claim.codeHash = submittedHash))
      fun d' _ => Kept d₀ d' :=
  .request (c := GuestCall.timingSafeEqual claim submittedHash) ⟨rfl, rfl⟩ h h

theorem turns_requestClaimCode (h : Kept d₀ d) (userId code newId : String) :
    Turns (GuestPaymentService.requestClaimCode config userId code newId) d x (fun _ d' _ => Kept d₀ d')
      fun d' _ => Kept d₀ d' := by
  refine turns_verifiedUser_bind h fun user _ _ => .outside_bind h (.whenSome (fun guest _ => ?_) fun _ => h)
  refine .query_bind h (.outside_bind h (.ensure_bind h fun _ => .query_bind h ?_))
  refine (turns_aside h rfl).bind fun _ d' x' h => ?_
  refine (turns_sendEmail h _ code).bind fun sent d' x' h => .when (fun _ => ?_) fun _ => h
  exact (turns_aside h rfl).bind fun _ _ _ h => .throw h

theorem turns_verifyClaimCode (h : Kept d₀ d) (userId code : String)
    (new : (paymentId : String) → NewDueRecord)
    (prompt : ∀ user ∈ d.findUser userId, Correct config d user code →
      Ready d user.id (findGuests d (config.normalizeEmail user.email))) :
    Turns (GuestPaymentService.verifyClaimCode config userId code new) d x (fun _ d' _ => Kept d₀ d')
      fun d' _ => Kept d₀ d' := by
  refine turns_verifiedUser_bind h fun user huser verified => .query_bind h (.outside_bind h ?_)
  refine .orThrow_bind h fun claim hclaim => ?_
  obtain rfl : user.id = userId := by simpa using List.find?_some huser
  refine (turns_timingSafeEqual h claim _).bind ?_
  rintro validCode d' x' ⟨rfl, rfl⟩
  by_cases correct : claim.codeHash = config.codeHash code user.id
  · rw [decide_eq_true correct]
    refine .outside_bind h (.query_bind h ?_)
    have ready := prompt user huser ⟨claim, hclaim, correct⟩
    have start : Claiming d₀ user (d'.findProfile user.id)
        (findGuests d' (config.normalizeEmail user.email)) d' :=
      ⟨h, rfl, ⟨user, huser, verified⟩, fun g hg => findGuests_unclaimed hg, nodup_findGuests _ _, ready⟩
    exact (inside_claimGuests start claim _ new).turns (fun _ _ kept => kept) h
  · rw [decide_eq_false correct]
    refine Turns.bind (S := fun _ _ _ => False) ?_ fun _ _ _ never => never.elim
    exact (turns_aside h rfl).bind fun _ _ _ h => .throw h

theorem turns_program (h : Kept d₀ d) {op : GuestOp} (prompt : Prompt config op d) :
    Turns (op.program config) d x (fun _ d' _ => Kept d₀ d') fun d' _ => Kept d₀ d' := by
  cases op with
  | requestClaimCode userId code newId => exact turns_requestClaimCode h userId code newId
  | verifyClaimCode userId code new => exact turns_verifyClaimCode h userId code new prompt
  | completePayment id paymentId duePaymentId receiptId =>
    exact turns_completePayment h id paymentId duePaymentId receiptId prompt
  | createStudentProfile userId newId => exact turns_aside h rfl
  | tick ms => exact turns_aside h rfl

end Turns

theorem Served.kept {config : ClaimConfig} {db d : GuestDb} {ext x : Outside} (before : BeforeClaims db)
    (served : Served config (Prompt config) db ext d x) : Kept db d := by
  induction served with
  | start => exact before.kept
  | call op o _ prompt ends ih =>
    obtain ⟨-, post⟩ := turns_program ih prompt o ends
    cases h : o.result with
    | ok a =>
      rw [h] at post
      exact post
    | error e =>
      rw [h] at post
      exact post

instance (d : GuestDb) (userId : String) (p : Payment) : Decidable (Recordable d userId p) :=
  inferInstanceAs (Decidable (∀ dueId ∈ p.guestDue, (∃ due ∈ d.dues.find? _, _ = _) ∧
    ∃ profile ∈ d.findProfile userId, ∀ a ∈ d.assignmentOf dueId profile.id,
      ∀ r ∈ d.duePayments.rows, r.assignmentId ≠ a.id))

instance : DecidableRel OtherDue := fun p p' =>
  inferInstanceAs (Decidable (∀ dueId ∈ p.guestDue, p'.guestDue ≠ some dueId))

instance (d : GuestDb) (userId : String) (guests : List GuestPayer) : Decidable (Ready d userId guests) :=
  decidable_of_iff ((∀ p ∈ paymentsOf d guests, Recordable d userId p) ∧
    (paymentsOf d guests).Pairwise OtherDue) ⟨fun h => ⟨h.1, h.2⟩, fun h => ⟨h.1, h.2⟩⟩

instance (config : ClaimConfig) : (op : GuestOp) → (d : GuestDb) → Decidable (Prompt config op d)
  | .completePayment id _ _ _, d => inferInstanceAs (Decidable (∀ q ∈ d.pendingPayments.find id,
      q.status = .pending → q.guestDueId.isSome → ∃ g ∈ d.guestPayers.rows,
        g.claimedAt = none ∧ g.placeholderUserId = q.userId))
  | .verifyClaimCode userId code _, d => inferInstanceAs (Decidable (∀ user ∈ d.findUser userId,
      (∃ claim ∈ usableCode d (config.normalizeEmail user.email) d.now,
        claim.codeHash = config.codeHash code user.id) → Ready d user.id _))
  | .requestClaimCode .., _ | .createStudentProfile .., _ | .tick _, _ => isTrue trivial

/-- The calls in turn, none of which fails, if each meets `P`. -/
def serve (config : ClaimConfig) (P : GuestOp → GuestDb → Prop) [∀ op d, Decidable (P op d)] :
    List GuestOp → GuestDb → Outside → Option (GuestDb × Outside)
  | [], d, x => some (d, x)
  | op :: ops, d, x =>
    if P op d then ((op.program config).alone [] d x).bind fun o => serve config P ops o.db o.ext else none

theorem Served.of_serve {config : ClaimConfig} {P : GuestOp → GuestDb → Prop} [∀ op d, Decidable (P op d)]
    {db d d' : GuestDb} {ext x x' : Outside} {ops : List GuestOp} (h : serve config P ops d x = some (d', x'))
    (served : Served config P db ext d x) : Served config P db ext d' x' := by
  induction ops generalizing d x with
  | nil =>
    cases h
    exact served
  | cons op ops ih =>
    simp only [serve, Option.ite_none_right_eq_some, Option.bind_eq_some_iff] at h
    obtain ⟨prompt, o, ho, h⟩ := h
    exact ih h (.call op o served prompt (Prog.ends_of_alone ho))

/-- A guest with the email of a student has a pending payment for a due, and a code. -/
def onePending : GuestDb :=
  { oneCode with
    studentProfiles := [⟨"s", "u"⟩]
    dues := [{ id := "d", organizationId := "o", amount := 500 }]
    pendingPayments := Table.empty.insert
      { id := "q", userId := "p", organizationId := "o", amount := 500, reference := "ref", guestDueId := some "d" } }

def oneGuest : GuestPayer := { id := "g", email := "mail", placeholderUserId := "p" }

theorem beforeClaims_onePending : BeforeClaims onePending where
  unclaimed := by decide +kernel
  placeholders := by decide +kernel
  unverified := by decide +kernel
  guests := fun p hp => by cases hp
  references := by decide +kernel
  same := by decide +kernel
  completed := by decide +kernel
  sited := fun r hr => by cases hr

def completes : GuestOp := .completePayment "q" "pay" "dp" "rec"

def claims : GuestOp := .verifyClaimCode "u" "right" fun _ => ⟨"a", "dp"⟩

end Heightt.Guests
