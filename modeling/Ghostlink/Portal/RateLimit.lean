import Ghostlink.Base.DictKeys
import Ghostlink.Base.Runs
import Mathlib.Algebra.Order.Ring.Unbundled.Rat
import Mathlib.Data.List.TakeWhile

/-! The portal's rate limiter in memory: for each scope and key the times of the calls that passed
and are still in the window, in one table that is cut to half when it holds too many. Which limits
it has is chosen when the portal starts. -/

namespace Ghostlink.RateLimit
open Collections List Option Dict

abbrev Limits := Dict String (ℤ × ℚ)

def limitOf (limits : Limits) (scope : String) : ℤ × ℚ := (limits.get? scope).getD (0, 1)

def bucketKey (scope key : String) : String := scope ++ ":" ++ key

structure InMemoryRateLimiter where
  limits : Limits
  buckets : Dict String (List ℚ)
  maxBuckets : ℤ

namespace InMemoryRateLimiter

def bucket (l : InMemoryRateLimiter) (b : String) : List ℚ := (l.buckets.get? b).getD []

def trim (l : InMemoryRateLimiter) : InMemoryRateLimiter :=
  if l.buckets.size ≤ l.maxBuckets then l
  else { l with buckets := l.buckets.dropOldest (l.maxBuckets / 2).toNat }

/-- What is still in the window of the bucket that a call names. -/
def kept (l : InMemoryRateLimiter) (scope key : String) (now : ℚ) : List ℚ :=
  (l.bucket (bucketKey scope key)).dropWhile fun t => (limitOf l.limits scope).2 < now - t

/-- No answer: `_trim` raises `StopIteration` once it has emptied the table for a negative bound. -/
def allow (l : InMemoryRateLimiter) (scope key : String) (now : ℚ) :
    Option Bool × InMemoryRateLimiter :=
  if (limitOf l.limits scope).1 ≤ 0 then (some true, l)
  else if (limitOf l.limits scope).1 ≤ (l.kept scope key now).length then
    (some false, { l with buckets := l.buckets.set (bucketKey scope key) (l.kept scope key now) })
  else
    (if l.maxBuckets < 0 then none else some true,
      { l with buckets := l.buckets.set (bucketKey scope key) (l.kept scope key now ++ [now]) }.trim)

/-- The bucket `b` is in the table, or there is room for it, or with it at the end the bucket `own`,
if there, is among the youngest half of what the table may hold. -/
def Keeps (l : InMemoryRateLimiter) (own b : String) : Prop :=
  l.buckets.contains b ∨ l.buckets.size < l.maxBuckets ∨
    (own ∈ l.buckets.keys ++ [b] →
      own ∈ (l.buckets.keys ++ [b]).drop (l.buckets.size + 1 - (l.maxBuckets / 2).toNat))

end InMemoryRateLimiter

structure Call where
  scope : String
  key : String
  now : ℚ

/-- The limiter, the last reading of its clock and the calls it answered with True. -/
structure Traffic where
  limiter : InMemoryRateLimiter
  clock : ℚ
  passed : List Call

namespace Traffic

def start (limits : Limits) (maxBuckets : ℤ) (clock : ℚ) : Traffic :=
  ⟨⟨limits, .empty, maxBuckets⟩, clock, []⟩

def step (s : Traffic) (c : Call) : Traffic where
  limiter := (s.limiter.allow c.scope c.key c.now).2
  clock := c.now
  passed := if (s.limiter.allow c.scope c.key c.now).1 = some true then s.passed ++ [c] else s.passed

def times (s : Traffic) (scope key : String) : List ℚ :=
  (s.passed.filter fun c => c.scope = scope ∧ c.key = key).map Call.now

/-- The clock does not go back, no other scope and key shares the bucket, and a new bucket finds room
in the table, or this one is not among the oldest that have to go. -/
def Spares (scope key : String) (s : Traffic) (c : Call) : Prop :=
  s.clock ≤ c.now ∧
  (bucketKey c.scope c.key = bucketKey scope key → c.scope = scope ∧ c.key = key) ∧
  s.limiter.Keeps (bucketKey scope key) (bucketKey c.scope c.key)

end Traffic

/-- Two calls pass at one moment where one is the limit: the bucket went with the other key's. -/
theorem allow_washed_out :
    let calls : List Call := [⟨"sign_in", "a", 0⟩, ⟨"sign_in", "b", 0⟩, ⟨"sign_in", "a", 0⟩]
    let s := calls.foldl Traffic.step (.start (.set .empty "sign_in" (1, 60)) 1 0)
    limitOf s.limiter.limits "sign_in" = (1, 60) ∧ s.times "sign_in" "a" = [0, 0] := by
  decide +kernel

lemma countP_dropWhile_of {α : Type*} {p q} (l : List α)
    (apart : ∀ x, q x = true → p x = false) : (l.dropWhile q).countP p = l.countP p := by
  have gone : (l.takeWhile q).countP p = 0 := by
    rw [countP_eq_zero]
    intro x mem
    simp [apart x (mem_takeWhile_imp mem)]
  conv_rhs => rw [← l.takeWhile_append_dropWhile (p := q), countP_append, gone, zero_add]

namespace InMemoryRateLimiter
variable (l : InMemoryRateLimiter) (b scope key : String) (now : ℚ)

lemma trim_get? : l.trim.buckets.get? b = none ∨ l.trim.buckets.get? b = l.buckets.get? b := by
  rw [trim]
  split_ifs
  · exact .inr rfl
  · cases there : (l.buckets.dropOldest (l.maxBuckets / 2).toNat).get? b with
    | none => exact .inl rfl
    | some ts =>
      have mem := mem_of_mem_dropOldest ((get?_eq_some_iff _ _ _).mp there)
      exact .inr ((get?_eq_some_iff _ _ _).mpr mem).symm

lemma allow_limits : (l.allow scope key now).2.limits = l.limits ∧
    (l.allow scope key now).2.maxBuckets = l.maxBuckets := by
  unfold allow trim
  split_ifs <;> exact ⟨rfl, rfl⟩

lemma contains_of_kept (some : l.kept scope key now ≠ []) :
    l.buckets.contains (bucketKey scope key) := by
  by_contra absent
  simp [Dict.contains] at absent
  simp [kept, bucket, absent] at some

lemma size_trim : l.trim.buckets.size ≤ max l.maxBuckets 0 := by
  unfold trim
  split_ifs with fits
  · exact le_max_of_le_left fits
  · have := size_dropOldest_le l.buckets (l.maxBuckets / 2).toNat
    dsimp only
    omega

lemma size_allow (small : l.buckets.size ≤ max l.maxBuckets 0) :
    (l.allow scope key now).2.buckets.size ≤ max l.maxBuckets 0 := by
  unfold allow
  split_ifs with free full
  · exact small
  · have there : l.buckets.contains (bucketKey scope key) := by
      refine l.contains_of_kept scope key now fun none => ?_
      rw [none, length_nil] at full
      omega
    obtain ⟨ts, found⟩ := isSome_iff_exists.mp there
    rwa [size_set_of_some _ _ found]
  all_goals exact size_trim _

variable {l b} (small : l.buckets.size ≤ max l.maxBuckets 0)
include small

lemma Keeps.contains_trim {b' : String} (keeps : l.Keeps b b') (ts : List ℚ)
    (there : (l.buckets.set b' ts).contains b) :
    { l with buckets := l.buckets.set b' ts }.trim.buckets.contains b := by
  unfold trim
  split_ifs with fits
  · exact there
  dsimp only at fits ⊢
  cases found : l.buckets.get? b' with
  | some =>
    -- the table has not grown
    have entry : 0 < l.buckets.size :=
      length_pos_of_mem ((get?_eq_some_iff _ _ _).mp found)
    rw [size_set_of_some _ _ found] at fits
    omega
  | none =>
    have grown := size_set_of_none l.buckets ts found
    have keys := keys_set_of_none ts found
    rcases keeps with known | room | young
    · simp [Dict.contains, found] at known
    · omega
    · rw [contains_iff_mem_keys, keys] at there
      rw [contains_iff_mem_keys, keys_dropOldest, keys, grown]
      exact young there

/-- A bucket that the call keeps is there afterwards, and so is the call's own. -/
lemma Keeps.contains_allow (keeps : l.Keeps b (bucketKey scope key))
    (there : l.buckets.contains b ∨ b = bucketKey scope key ∧ 0 < (limitOf l.limits scope).1) :
    (l.allow scope key now).2.buckets.contains b := by
  have set (ts) : (l.buckets.set (bucketKey scope key) ts).contains b :=
    (contains_set ..).mpr (there.symm.imp_left And.left)
  unfold allow
  split_ifs with free
  · exact there.resolve_right fun own => own.2.not_ge free
  · exact set _
  all_goals exact keeps.contains_trim small _ (set _)

omit small
variable (l) {scope}

lemma allow_get?_ne (other : b ≠ bucketKey scope key) :
    (l.allow scope key now).2.buckets.get? b = none ∨
      (l.allow scope key now).2.buckets.get? b = l.buckets.get? b := by
  unfold allow
  split_ifs
  · exact .inr rfl
  · exact .inr (get?_set_ne _ _ other)
  all_goals
    rw [← get?_set_ne l.buckets _ other]
    exact trim_get? _ b

/-- What a call leaves in its own bucket, unless the bucket is gone. -/
lemma allow_get?_self (limited : 0 < (limitOf l.limits scope).1) :
    let r := l.allow scope key now
    r.2.buckets.get? (bucketKey scope key) = none ∨
      r.1 ≠ some true ∧ r.2.bucket (bucketKey scope key) = l.kept scope key now ∨
      (l.kept scope key now).length < (limitOf l.limits scope).1 ∧
        r.2.bucket (bucketKey scope key) = l.kept scope key now ++ [now] := by
  dsimp only
  unfold allow
  rw [if_neg limited.not_ge]
  split_ifs with full
  · exact .inr (.inl ⟨by simp, by simp [bucket]⟩)
  all_goals
    refine (trim_get? _ _).imp_right fun same => .inr ⟨not_le.mp full, ?_⟩
    rw [bucket, same]
    simp

end InMemoryRateLimiter

namespace Traffic
variable {s : Traffic} {c : Call} {scope key : String} {n : ℤ} {w : ℚ}

lemma times_step (s : Traffic) (c : Call) (scope key : String) :
    (s.step c).times scope key = s.times scope key ++
      if (s.limiter.allow c.scope c.key c.now).1 = some true ∧ c.scope = scope ∧ c.key = key
      then [c.now] else [] := by
  rw [times, times, step]
  by_cases pass : (s.limiter.allow c.scope c.key c.now).1 = some true
  · rw [if_pos pass, filter_append, map_append]
    by_cases own : c.scope = scope ∧ c.key = key
    · rw [if_pos ⟨pass, own⟩]
      simp [own]
    · simp [own]
  · simp [pass]

/-- From now on the bucket holds all the passed calls that are still in the window. -/
structure Bounded (n : ℤ) (w : ℚ) (scope key : String) (s : Traffic) : Prop where
  limit : limitOf s.limiter.limits scope = (n, w)
  small : s.limiter.buckets.size ≤ max s.limiter.maxBuckets 0
  there : s.times scope key ≠ [] → s.limiter.buckets.contains (bucketKey scope key)
  held : ∀ t, s.clock ≤ t → (s.times scope key).countP (fun u => t - u ≤ w) ≤
    (s.limiter.bucket (bucketKey scope key)).countP fun u => t - u ≤ w
  few : ∀ a, (s.times scope key).countP (fun u => a ≤ u ∧ u ≤ a + w) ≤ n

variable (bounded : Bounded n w scope key s) (after : s.clock ≤ c.now)
include bounded after

lemma Bounded.kept {t : ℚ} (later : c.now ≤ t) :
    (s.times scope key).countP (fun u => t - u ≤ w) ≤
      (s.limiter.kept scope key c.now).countP fun u => t - u ≤ w := by
  rw [InMemoryRateLimiter.kept, bounded.limit, countP_dropWhile_of]
  · exact bounded.held t (after.trans later)
  · intro u old
    have old := of_decide_eq_true old
    rw [decide_eq_false_iff_not]
    linarith

/-- All that is in a window with the present moment is in the bucket. -/
lemma Bounded.few_concat (room : (s.limiter.kept scope key c.now).length < n) (a : ℚ) :
    (s.times scope key ++ [c.now]).countP (fun u => a ≤ u ∧ u ≤ a + w) ≤ n := by
  rw [countP_append, countP_singleton]
  split_ifs with inside
  · have inside := of_decide_eq_true inside
    have recent : (s.times scope key).countP (fun u => a ≤ u ∧ u ≤ a + w) ≤
        (s.times scope key).countP fun u => c.now - u ≤ w := by
      apply countP_mono_left
      intro u _ there
      have there := of_decide_eq_true there
      apply decide_eq_true
      linarith
    have fits := (recent.trans (bounded.kept after le_rfl)).trans countP_le_length
    omega
  · exact bounded.few a

omit after

/-- The bucket of a key of which a call has passed is still there. -/
lemma Bounded.there_step (limited : 0 < n)
    (keeps : s.limiter.Keeps (bucketKey scope key) (bucketKey c.scope c.key))
    (passed : (s.step c).times scope key ≠ []) :
    (s.step c).limiter.buckets.contains (bucketKey scope key) := by
  refine keeps.contains_allow c.scope c.key c.now bounded.small ?_
  by_cases own : c.scope = scope ∧ c.key = key
  · obtain ⟨rfl, rfl⟩ := own
    exact .inr ⟨rfl, by rwa [bounded.limit]⟩
  · rw [times_step, if_neg fun h => own h.2, append_nil] at passed
    exact .inl (bounded.there passed)

lemma Bounded.step (limited : 0 < n) (spares : Spares scope key s c) :
    Bounded n w scope key (s.step c) := by
  obtain ⟨after, alone, keeps⟩ := spares
  obtain ⟨limits, maxBuckets⟩ := s.limiter.allow_limits c.scope c.key c.now
  have same : limitOf (s.step c).limiter.limits scope = (n, w) := by
    rw [Traffic.step, limits, bounded.limit]
  have small : (s.step c).limiter.buckets.size ≤ max (s.step c).limiter.maxBuckets 0 := by
    rw [Traffic.step, maxBuckets]
    exact s.limiter.size_allow c.scope c.key c.now bounded.small
  have there := bounded.there_step limited keeps
  cases left : (s.step c).limiter.buckets.get? (bucketKey scope key) with
  | none =>
    -- then no call of the key has passed yet
    have empty : (s.step c).times scope key = [] := by
      by_contra passed
      simpa [Dict.contains, left] using there passed
    exact ⟨same, small, there, by simp [empty], by simp [empty, limited.le]⟩
  | some ts =>
    by_cases own : bucketKey c.scope c.key = bucketKey scope key
    · -- a call of the key itself: refused, or one more entry in its bucket
      obtain ⟨rfl, rfl⟩ := alone own
      have self := s.limiter.allow_get?_self c.key c.now (by rwa [bounded.limit])
      rw [bounded.limit] at self
      rcases self with gone | ⟨refused, bucket⟩ | ⟨room, bucket⟩
      · cases gone.symm.trans left
      · have times : (s.step c).times c.scope c.key = s.times c.scope c.key := by
          simp [times_step, refused]
        refine ⟨same, small, there, fun t later => ?_, times ▸ bounded.few⟩
        rw [times, Traffic.step, bucket]
        exact bounded.kept after later
      · refine ⟨same, small, there, fun t later => ?_, fun a => ?_⟩
        · rw [times_step, Traffic.step, bucket, countP_append, countP_append]
          refine Nat.add_le_add (bounded.kept after later) ?_
          split_ifs
          exacts [le_rfl, Nat.zero_le _]
        · rw [times_step]
          split_ifs
          · exact bounded.few_concat after room a
          · simpa using bounded.few a
    · -- another bucket is written, and what is trimmed is not this one
      have times : (s.step c).times scope key = s.times scope key := by
        rw [times_step, if_neg, append_nil]
        rintro ⟨-, rfl, rfl⟩
        exact own rfl
      refine ⟨same, small, there, fun t later => ?_, times ▸ bounded.few⟩
      rcases s.limiter.allow_get?_ne c.key c.now (Ne.symm own) with gone | kept
      · cases gone.symm.trans left
      · rw [times, Traffic.step, InMemoryRateLimiter.bucket, kept]
        exact bounded.held t (after.trans later)

end Traffic

/-- At most the limit passes in any closed interval of the window's length, as long as the bucket is
the caller's own and the table has room for new ones, or older ones to drop. -/
theorem times_within_le (limits : Limits) (maxBuckets : ℤ) (clock : ℚ) (calls : List Call)
    (scope key : String) (limited : 0 < (limitOf limits scope).1)
    (spares : Runs.Along Traffic.step (Traffic.Spares scope key) (.start limits maxBuckets clock)
      calls) (a : ℚ) :
    ((calls.foldl Traffic.step (.start limits maxBuckets clock)).times scope key).countP
      (fun t => a ≤ t ∧ t ≤ a + (limitOf limits scope).2) ≤ (limitOf limits scope).1 := by
  have bounded : Traffic.Bounded (limitOf limits scope).1 (limitOf limits scope).2 scope key
      (calls.foldl Traffic.step (.start limits maxBuckets clock)) :=
    spares.invariant
      ⟨rfl, le_max_right _ _, fun none => absurd rfl none, fun _ _ => Nat.zero_le _, fun _ => limited.le⟩
      fun s c bounded => bounded.step limited
  exact bounded.few a

/-- The fifth bucket makes the table too large; two of the older ones go and that of `a` stays. -/
def crowd : List Call :=
  [⟨"sign_in", "b", 0⟩, ⟨"sign_in", "c", 0⟩, ⟨"sign_in", "d", 0⟩, ⟨"sign_in", "a", 0⟩,
    ⟨"sign_in", "e", 1⟩, ⟨"sign_in", "a", 2⟩]

theorem times_within_le_crowd :
    ((crowd.foldl Traffic.step (.start (.set .empty "sign_in" (1, 60)) 4 0)).times "sign_in"
      "a").countP (fun t => 0 ≤ t ∧ t ≤ 0 + (60 : ℚ)) ≤ (1 : ℤ) :=
  times_within_le (.set .empty "sign_in" (1, 60)) 4 0 crowd "sign_in" "a" (by decide +kernel)
    (by unfold Traffic.Spares InMemoryRateLimiter.Keeps; decide +kernel) 0

def defaultLimits : Limits :=
  [("sign_in", 10, 60), ("sign_up", 5, 3600), ("password_reset_request", 5, 3600),
    ("email_verify", 10, 300), ("mfa_verify", 5, 60), ("credential_create", 10, 300),
    ("credential_rotate", 10, 300), ("credential_revoke", 20, 300), ("session_action", 20, 300),
    ("webauthn_register", 10, 300), ("pair_begin", 10, 300), ("pair_approve", 10, 300),
    ("token_issue", 20, 300), ("token_refresh", 20, 300), ("credential_verify", 20, 300),
    ("device_register", 10, 300)].foldl (fun d e => d.set e.1 e.2) .empty

/-- The limiter in PostgreSQL keeps its counters in the database; both begin a call with `limitOf`. -/
inductive RateLimiter where
  | memory (l : InMemoryRateLimiter)
  | postgres (limits : Limits)

def RateLimiter.limits : RateLimiter → Limits
  | .memory l => l.limits
  | .postgres limits => limits

inductive Backend where
  | memory
  | postgresql
  | sqlite
  deriving DecidableEq

/-- An empty dictionary counts as none. -/
def chosen (overrides : Limits) : Limits :=
  if overrides.size = 0 then defaultLimits else overrides

def buildRateLimiter (backend db : Backend) (overrides : Limits) : Except String RateLimiter :=
  match backend with
  | .postgresql =>
    if db = .postgresql then .ok (.postgres (chosen overrides))
    else .error "PostgresRateLimiter requires the PostgreSQL backend."
  | .memory => .ok (.memory ⟨chosen overrides, .empty, 4096⟩)
  | .sqlite => .error "Unknown RATE_LIMIT_BACKEND: 'sqlite'"

structure PortalConfig where
  rateLimitBackend : Backend
  rateLimitOverrides : Limits

/-- The limiter that `Portal` builds. -/
def portalLimiter (db : Backend) (config : PortalConfig) : Except String RateLimiter :=
  if config.rateLimitBackend = .postgresql then
    buildRateLimiter .postgresql db config.rateLimitOverrides
  else .ok (.memory ⟨chosen config.rateLimitOverrides, .empty, 4096⟩)

lemma portalLimiter_limits {db : Backend} {config : PortalConfig} {l : RateLimiter}
    (built : portalLimiter db config = .ok l) : l.limits = chosen config.rateLimitOverrides := by
  simp only [portalLimiter, buildRateLimiter] at built
  split_ifs at built <;> cases built <;> rfl

/-- What overriding some limits should leave of all. -/
def overridden (overrides : Limits) (scope : String) : Option (ℤ × ℚ) :=
  (overrides.get? scope).or (defaultLimits.get? scope)

/-- The limits are the overrides and else the defaults only if nothing or every default is
overridden. -/
theorem portalLimiter_overridden_iff (db : Backend) (config : PortalConfig) (l : RateLimiter)
    (built : portalLimiter db config = .ok l) :
    (∀ scope limit, overridden config.rateLimitOverrides scope = some limit →
      limitOf l.limits scope = limit) ↔
    config.rateLimitOverrides.size = 0 ∨
      ∀ scope, defaultLimits.contains scope → config.rateLimitOverrides.contains scope := by
  rw [portalLimiter_limits built, chosen]
  split_ifs with none
  · have empty (scope) : config.rateLimitOverrides.get? scope = Option.none := by
      rw [Dict.get?, eq_nil_of_length_eq_zero none]
      rfl
    refine iff_of_true (fun scope limit found => ?_) (.inl none)
    rw [overridden, empty, none_or] at found
    rw [limitOf, found, getD_some]
  · rw [or_iff_right none]
    refine forall_congr' fun scope => ?_
    rw [overridden, limitOf, Dict.contains, Dict.contains]
    cases config.rateLimitOverrides.get? scope with
    | some => simp
    | none =>
      cases default : defaultLimits.get? scope with
      | none => simp
      | some limit =>
        have positive : ∀ e ∈ defaultLimits.entries, (0, 1) ≠ e.2 := by decide +kernel
        simpa using positive _ ((get?_eq_some_iff _ _ _).mp default)

/-- Every default is overridden, with twice as many calls. -/
def doubled : Limits :=
  defaultLimits.entries.foldl (fun d e => d.set e.1 (2 * e.2.1, e.2.2)) .empty

theorem portalLimiter_overridden_iff_doubled :
    limitOf doubled "sign_in" = (20, 60) ∧
      ∀ scope limit, overridden doubled scope = some limit → limitOf doubled scope = limit := by
  refine ⟨by decide +kernel, ?_⟩
  refine (portalLimiter_overridden_iff .sqlite ⟨.memory, doubled⟩ _ rfl).mpr (.inr fun scope => ?_)
  have keys : defaultLimits.keys = doubled.keys := by decide +kernel
  rw [contains_iff_mem_keys, contains_iff_mem_keys, keys]
  exact id

/-- With one limit overridden there is none on signing in. -/
theorem override_drops_sign_in :
    let overrides : Limits := .set .empty "sign_up" (3, 60)
    overridden overrides "sign_in" = some (10, 60) ∧
      (portalLimiter .sqlite ⟨.memory, overrides⟩).map (fun l => limitOf l.limits "sign_in") =
        .ok (0, 1) := by
  decide +kernel

end Ghostlink.RateLimit
