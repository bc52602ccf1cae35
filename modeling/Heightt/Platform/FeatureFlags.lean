import Heightt.Schema.Text

/-!
# Feature flags

`createFeatureFlag`, `isFeatureEnabled` and `hashUserId` of `platform.service.ts`. A flag is rolled
out to a percentage of the users, by a hash of their identifiers that is taken modulo a hundred.
-/

namespace Heightt.PlatformService

structure CreateFeatureFlagDto where
  key : String
  enabled : Option Bool := none
  percentage : Option Nat := none

structure FeatureFlag where
  key : String
  enabled : Bool
  percentage : Nat
  deriving DecidableEq

/-- `dto.percentage || 100` -/
def rollout (percentage : Option Nat) : Nat :=
  match percentage with
  | none | some 0 => 100
  | some p => p

/-- The flags afterwards; `none` is the conflict with a flag of the same key. -/
def createFeatureFlag (flags : List FeatureFlag) (dto : CreateFeatureFlagDto) : Option (List FeatureFlag) :=
  if (flags.find? fun f => f.key = dto.key).isSome then none
  else some (flags ++ [⟨dto.key, dto.enabled.getD false, rollout dto.percentage⟩])

/-- `hash = (hash << 5) - hash + charCode`, cut to 32 bits by `|= 0`. -/
def hashStep (hash : BitVec 32) (charCode : UInt16) : BitVec 32 := (hash <<< 5) - hash + charCode.toBitVec.zeroExtend 32

def hashUserId (userId : Text) : Nat := (userId.foldl hashStep 0).toInt.natAbs % 100

/-- An empty identifier counts as none. -/
def isFeatureEnabled (flags : List FeatureFlag) (key : String) (userId : Option Text) : Bool :=
  match flags.find? fun f => f.key = key with
  | none => false
  | some flag =>
    if !flag.enabled then false
    else match userId with
      | none | some [] => true
      | some userId => !decide (flag.percentage < 100 ∧ flag.percentage < hashUserId userId)

/-! ## The boundary of a rollout -/

theorem hashUserId_lt (userId : Text) : hashUserId userId < 100 := Nat.mod_lt _ (by decide)

theorem hashUserId_nil : hashUserId [] = 0 := rfl

/-- A created flag is the one that is found under its key. -/
theorem find_createFeatureFlag {flags flags' : List FeatureFlag} {dto : CreateFeatureFlagDto}
    (created : createFeatureFlag flags dto = some flags') :
    flags'.find? (fun f => f.key = dto.key) = some ⟨dto.key, dto.enabled.getD false, rollout dto.percentage⟩ := by
  unfold createFeatureFlag at created
  split at created
  · cases created
  · rename_i unused
    rw [Option.not_isSome_iff_eq_none] at unused
    rw [← Option.some.inj created, List.find?_append, unused]
    simp

/-- A created flag is enabled for the buckets up to its percentage, and with that bucket, and for all
if the percentage was zero. -/
theorem isFeatureEnabled_created {flags flags' : List FeatureFlag} {dto : CreateFeatureFlagDto} {p : Nat}
    (created : createFeatureFlag flags dto = some flags') (percentage : dto.percentage = some p) (userId : Text) :
    isFeatureEnabled flags' dto.key (some userId) = true ↔
      dto.enabled = some true ∧ (p = 0 ∨ hashUserId userId ≤ p) := by
  have bucket := hashUserId_lt userId
  have enabled : dto.enabled.getD false = true ↔ dto.enabled = some true := by cases dto.enabled <;> simp
  unfold isFeatureEnabled
  rw [find_createFeatureFlag created, ← enabled]
  cases dto.enabled.getD false with
  | false => simp
  | true =>
    -- the comparison is not made for an empty identifier, whose bucket is the first
    have boundary : (rollout dto.percentage < 100 ∧ rollout dto.percentage < hashUserId userId) ↔
        ¬(p = 0 ∨ hashUserId userId ≤ p) := by
      rw [percentage]
      cases p with
      | zero => simp [rollout]
      | succ p =>
        simp only [rollout]
        omega
    cases userId with
    | nil => simp [hashUserId_nil]
    | cons u s => simp only [Bool.not_true, Bool.false_eq_true, if_false, boundary, decide_not, Bool.not_not,
        decide_eq_true_eq, true_and]

/-- **The exact rollout.** A flag created with a percentage is enabled for the users of so many first
buckets, unless it was created with zero percent, or the user's bucket is the next one. -/
theorem isFeatureEnabled_iff_bucket {flags flags' : List FeatureFlag} {dto : CreateFeatureFlagDto} {p : Nat}
    (created : createFeatureFlag flags dto = some flags') (percentage : dto.percentage = some p) (range : p ≤ 100)
    (userId : Text) :
    (isFeatureEnabled flags' dto.key (some userId) = true ↔ hashUserId userId < p) ↔
      if dto.enabled = some true then p ≠ 0 ∧ hashUserId userId ≠ p else p ≤ hashUserId userId := by
  rw [isFeatureEnabled_created created percentage]
  split
  · rename_i enabled
    simp only [enabled, true_and]
    omega
  · rename_i disabled
    simp only [disabled, false_and, false_iff]
    omega

def newDashboard : CreateFeatureFlagDto where
  key := "new_dashboard"
  enabled := some true
  percentage := some 50

theorem isFeatureEnabled_iff_bucket_user : ∃ flags, createFeatureFlag [] newDashboard = some flags ∧
    (isFeatureEnabled flags newDashboard.key (some (Text.units "user-1")) = true ↔
      hashUserId (Text.units "user-1") < 50) := by
  have created : createFeatureFlag [] newDashboard = some [⟨"new_dashboard", true, 50⟩] := rfl
  exact ⟨_, created, (isFeatureEnabled_iff_bucket created rfl (by decide) (Text.units "user-1")).2 (by decide)⟩

/-- With zero percent every user has the feature. -/
theorem enabled_at_zero : ¬∀ (flags flags' : List FeatureFlag) (dto : CreateFeatureFlagDto) (p : Nat) (userId : Text),
    createFeatureFlag flags dto = some flags' → dto.percentage = some p → p ≤ 100 → dto.enabled = some true →
      (isFeatureEnabled flags' dto.key (some userId) = true ↔ hashUserId userId < p) := by
  intro exact_
  have nobody := exact_ [] _ { newDashboard with percentage := some 0 } 0 (Text.units "user-1") rfl rfl (by decide) rfl
  revert nobody
  decide

end Heightt.PlatformService
