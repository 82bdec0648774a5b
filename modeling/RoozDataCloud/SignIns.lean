import RoozDataCloud.IdentityTenancy

set_option autoImplicit false

/-!
# Sign-ins and sessions

`login` counts the failures of an account and locks it, and `resolve_auth_context` lets a
session live as long as it is used. A failed login is committed before it raises; what the
refusal of an expired session writes is rolled back with the request.
-/
namespace RoozDataCloud.SignIns
open KeyedTable ExecutionModels FallibleSteps IdentityTenancy

section Logins

/-- The password hasher, and `str.casefold` of a stripped address. -/
structure Passwords where
  normalizeEmail : String → String
  verifyPassword : String → String → Bool
  needsPasswordRehash : String → Bool
  hashPassword : String → String

structure Account where
  passwordHash : String
  status : UserStatus
  failedLoginCount : ℕ
  lockedUntil : Option Time

structure LoginRequest where
  email : String
  password : String
  now : Time

def lockout : Time := seconds (15 * 60)

/-- The password of the request is compared with the account's. -/
def compares (account : Account) (now : Time) : Bool :=
  account.status = .active && account.lockedUntil.all (· ≤ now)

def failedLogin (account : Account) (now : Time) : Account :=
  { account with
    failedLoginCount := account.failedLoginCount + 1
    lockedUntil := if 10 ≤ account.failedLoginCount + 1 then some (now + lockout)
      else account.lockedUntil }

def signedIn (lib : Passwords) (account : Account) (password : String) : Account :=
  { account with
    passwordHash := if lib.needsPasswordRehash account.passwordHash then lib.hashPassword password
      else account.passwordHash
    failedLoginCount := 0
    lockedUntil := none }

/-- The accounts after a login, and whether a session is issued. -/
def login (lib : Passwords) (accounts : Table String Account) (request : LoginRequest) :
    Table String Account × Bool :=
  let email := lib.normalizeEmail request.email
  match accounts.get? email with
  | none => (accounts, false)
  | some account =>
    if compares account request.now && lib.verifyPassword account.passwordHash request.password then
      (accounts.modify email (fun account => signedIn lib account request.password), true)
    else (accounts.modify email (fun account => failedLogin account request.now), false)

def loginStep (lib : Passwords) (accounts : Table String Account) (request : LoginRequest) :
    Table String Account := (login lib accounts request).1

/-- How many of the requests have their password compared with the one of an account. -/
def comparisons (lib : Passwords) (email : String) (accounts : Table String Account) :
    List LoginRequest → ℕ
  | [] => 0
  | request :: requests =>
    (if lib.normalizeEmail request.email = email ∧
      (accounts.get? email).any (compares · request.now) = true then 1 else 0) +
      comparisons lib email (loginStep lib accounts request) requests

variable {lib : Passwords} {email hash : String}

/-- No request for the account has its password. -/
def Wrong (lib : Passwords) (email hash : String) (request : LoginRequest) : Prop :=
  lib.normalizeEmail request.email = email → lib.verifyPassword hash request.password = false

theorem login_other {accounts : Table String Account} {request : LoginRequest}
    (h : lib.normalizeEmail request.email ≠ email) :
    (loginStep lib accounts request).get? email = accounts.get? email := by
  cases hget : accounts.get? (lib.normalizeEmail request.email) with
  | none => simp only [loginStep, login, hget]
  | some account =>
    simp only [loginStep, login, hget]
    split_ifs <;> exact Table.get?_modify_ne _ _ (Ne.symm h)

theorem login_wrong {accounts : Table String Account} {request : LoginRequest} {account : Account}
    (hget : accounts.get? email = some account) (hmine : lib.normalizeEmail request.email = email)
    (hwrong : Wrong lib email account.passwordHash request) :
    (loginStep lib accounts request).get? email = some (failedLogin account request.now) := by
  simp only [loginStep, login, hmine, hget, hwrong hmine, Bool.and_false, Bool.false_eq_true,
    if_false, Table.get?_modify_self, Option.map_some]

theorem compares_locked {account : Account} {now until' : Time}
    (hlock : account.lockedUntil = some until') (h : compares account now = true) : until' ≤ now := by
  rw [compares, Bool.and_eq_true, hlock, Option.all_some] at h
  exact of_decide_eq_true h.2

theorem spaced {since now last gap n : ℕ} (hnow : since + gap ≤ now) (hlast : now ≤ last)
    (h : n = 0 ∨ now + n * gap ≤ last) : since + (1 + n) * gap ≤ last := by
  rw [Nat.add_mul, Nat.one_mul]
  rcases h with rfl | h
  · rw [Nat.zero_mul]
    omega
  · omega

theorem failedLogin_count (account : Account) (now : Time) :
    (failedLogin account now).failedLoginCount = account.failedLoginCount + 1 := rfl

theorem failedLogin_locks {account : Account} (now : Time)
    (h : 10 ≤ account.failedLoginCount + 1) :
    (failedLogin account now).lockedUntil = some (now + lockout) := if_pos h

/-- A locked account compares one password at most in every lockout. -/
theorem locked_comparisons {accounts : Table String Account} {account : Account} {since last : Time}
    {requests : List LoginRequest} (hget : accounts.get? email = some account)
    (hten : 10 ≤ account.failedLoginCount) (hlock : account.lockedUntil = some (since + lockout))
    (hclock : requests.Pairwise (·.now ≤ ·.now))
    (htimes : ∀ r ∈ requests, since ≤ r.now ∧ r.now ≤ last)
    (hwrong : ∀ r ∈ requests, Wrong lib email account.passwordHash r) :
    comparisons lib email accounts requests = 0 ∨
      since + comparisons lib email accounts requests * lockout ≤ last := by
  induction requests generalizing accounts account since with
  | nil => exact .inl rfl
  | cons request requests ih =>
    obtain ⟨hfirst, hclock⟩ := List.pairwise_cons.1 hclock
    obtain ⟨hsince, hlast⟩ := htimes request List.mem_cons_self
    have hlater : ∀ r ∈ requests, Wrong lib email account.passwordHash r :=
      fun r hr => hwrong r (List.mem_cons_of_mem _ hr)
    by_cases hmine : lib.normalizeEmail request.email = email
    · have hcount := failedLogin_count account request.now
      have hrest := ih (login_wrong hget hmine (hwrong request List.mem_cons_self)) (by omega)
        (failedLogin_locks request.now (by omega)) hclock
        (fun r hr => ⟨hfirst r hr, (htimes r (List.mem_cons_of_mem _ hr)).2⟩) hlater
      rw [comparisons]
      split_ifs with hcompared
      · rw [hget, Option.any_some] at hcompared
        exact .inr (spaced (compares_locked hlock hcompared.2) hlast hrest)
      · rw [Nat.zero_add]
        exact hrest.imp id (Nat.add_le_add_right hsince _).trans
    · have hrest := ih ((login_other hmine).trans hget) hten hlock hclock
        (fun r hr => htimes r (List.mem_cons_of_mem _ hr)) hlater
      rw [comparisons, if_neg (fun h => hmine h.1), Nat.zero_add]
      exact hrest

theorem counted {since now last gap a b : ℕ} (hab : a ≤ b) (hsince : since ≤ now)
    (h : b ≤ 10 ∨ now + (b - 10) * gap ≤ last) : a ≤ 10 ∨ since + (a - 10) * gap ≤ last := by
  rcases h with h | h
  · exact .inl (hab.trans h)
  · exact .inr ((Nat.add_le_add hsince (Nat.mul_le_mul_right gap (by omega))).trans h)

theorem comparisons_cons (lib : Passwords) (email : String) (accounts : Table String Account)
    (request : LoginRequest) (requests : List LoginRequest) :
    comparisons lib email accounts (request :: requests) ≤
      1 + comparisons lib email (loginStep lib accounts request) requests := by
  rw [comparisons]
  split_ifs <;> omega

/-- Before it is locked, an account compares as many passwords as it still lets fail. -/
theorem open_comparisons {accounts : Table String Account} {account : Account} {since last : Time}
    {requests : List LoginRequest} (hget : accounts.get? email = some account)
    (hopen : account.failedLoginCount < 10) (hclock : requests.Pairwise (·.now ≤ ·.now))
    (htimes : ∀ r ∈ requests, since ≤ r.now ∧ r.now ≤ last)
    (hwrong : ∀ r ∈ requests, Wrong lib email account.passwordHash r) :
    comparisons lib email accounts requests + account.failedLoginCount ≤ 10 ∨
      since + (comparisons lib email accounts requests + account.failedLoginCount - 10) * lockout ≤
        last := by
  induction requests generalizing accounts account since with
  | nil => exact .inl (by rw [comparisons]; omega)
  | cons request requests ih =>
    obtain ⟨hfirst, hclock⟩ := List.pairwise_cons.1 hclock
    obtain ⟨hsince, hlast⟩ := htimes request List.mem_cons_self
    have hlater : ∀ r ∈ requests, Wrong lib email account.passwordHash r :=
      fun r hr => hwrong r (List.mem_cons_of_mem _ hr)
    by_cases hmine : lib.normalizeEmail request.email = email
    · have hstep := login_wrong hget hmine (hwrong request List.mem_cons_self)
      have hafter : ∀ r ∈ requests, request.now ≤ r.now ∧ r.now ≤ last :=
        fun r hr => ⟨hfirst r hr, (htimes r (List.mem_cons_of_mem _ hr)).2⟩
      have hcount := failedLogin_count account request.now
      have hcons := comparisons_cons lib email accounts request requests
      by_cases hnine : account.failedLoginCount + 1 < 10
      · have hrest := ih hstep hnine hclock hafter hlater
        exact counted (by omega) hsince hrest
      · have hrest := locked_comparisons hstep (by omega) (failedLogin_locks request.now (by omega))
          hclock hafter hlater
        have hten : comparisons lib email (loginStep lib accounts request) requests + 10 ≤ 10 ∨
            request.now + (comparisons lib email (loginStep lib accounts request) requests + 10 - 10) *
              lockout ≤ last := by
          rw [Nat.add_sub_cancel]
          exact hrest.imp (fun h => by omega) id
        exact counted (by omega) hsince hten
    · have hrest := ih ((login_other hmine).trans hget) hopen hclock
        (fun r hr => htimes r (List.mem_cons_of_mem _ hr)) hlater
      rw [comparisons, if_neg (fun h => hmine h.1), Nat.zero_add]
      exact hrest

/-- Of any number of requests with wrong passwords for an account that has had no failure since its
last sign-in, served one after the other, ten are compared with the account's password, and one more
for every lockout that passes between the first and the last of them. -/
theorem guesses_bounded (lib : Passwords) (accounts : Table String Account) (email : String)
    (account : Account) (requests : List LoginRequest) (first last : Time)
    (hget : accounts.get? email = some account) (hcount : account.failedLoginCount = 0)
    (hclock : requests.Pairwise (·.now ≤ ·.now))
    (htimes : ∀ r ∈ requests, first ≤ r.now ∧ r.now ≤ last)
    (hwrong : ∀ r ∈ requests, Wrong lib email account.passwordHash r) :
    comparisons lib email accounts requests ≤ 10 + (last - first) / lockout := by
  have h := open_comparisons hget (by omega) hclock htimes hwrong
  rw [hcount, Nat.add_zero] at h
  rcases h with h | h
  · exact h.trans (Nat.le_add_right _ _)
  · have hslots : comparisons lib email accounts requests - 10 ≤ (last - first) / lockout :=
      (Nat.le_div_iff_mul_le (by decide)).2 (Nat.le_sub_of_add_le (by rwa [Nat.add_comm] at h))
    exact Nat.sub_le_iff_le_add'.1 hslots

def samplePasswords : Passwords := ⟨id, (· == ·), fun _ => false, id⟩

def sampleAccounts (failures : ℕ) (lockedUntil : Option Time) : Table String Account :=
  ⟨[("ada", ⟨"right", .active, failures, lockedUntil⟩)], by simp⟩

theorem twelve_guesses : comparisons samplePasswords "ada" (sampleAccounts 0 none)
    (List.replicate 12 ⟨"ada", "wrong", 7⟩) ≤ 10 + (7 - 7) / lockout :=
  guesses_bounded samplePasswords _ "ada" ⟨"right", .active, 0, none⟩ _ 7 7 rfl rfl
    (List.pairwise_replicate.2 (.inr le_rfl)) (fun r hr => by rw [List.eq_of_mem_replicate hr]; simp)
    (fun r hr _ => by rw [List.eq_of_mem_replicate hr]; decide)

/-- Every request for the account comes within a lockout of the one before it. -/
def Persistent (lib : Passwords) (email : String) (since : Time) : List LoginRequest → Prop
  | [] => True
  | request :: requests =>
    if lib.normalizeEmail request.email = email then
      request.now < since + lockout ∧ Persistent lib email request.now requests
    else Persistent lib email since requests

end Logins

section Sessions
variable (idle absolute : Time)

structure Session where
  lastSeenAt : Time
  idleExpiresAt : Time
  absoluteExpiresAt : Time
  revokedAt : Option Time

/-- `issue_session`, with the two lifetimes of the settings. -/
def issueSession (now : Time) : Session := ⟨now, now + idle, now + absolute, none⟩

def authRequired : Failure := apiError 401 "AUTH_REQUIRED" "Authentication is required."

def refreshed (now : Time) (record : Session) : Session :=
  if record.lastSeenAt + seconds 300 ≤ now then
    { record with
      lastSeenAt := now
      idleExpiresAt := min (now + idle) record.absoluteExpiresAt }
  else record

/-- `resolve_auth_context` of a session cookie. -/
def resolveSession (status : UserStatus) (now : Time) (record : Session) :
    Except Failure Session := do
  require (record.revokedAt = none) authRequired
  require (now < record.idleExpiresAt ∧ now < record.absoluteExpiresAt)
    (apiError 401 "SESSION_EXPIRED" "The session expired. Sign in again.")
  require (status = .active) authRequired
  pure (refreshed idle now record)

/-- A request with the session's cookie; the route of `revoke_session` is one of them. -/
structure Use where
  now : Time
  status : UserStatus
  logout : Bool
  raises : Bool

/-- The session as it is stored, and when it was last accepted by a request that did not raise
after that. One that does is rolled back, and with it what it has written to the session. -/
def useStep (s : Session × Time) (use : Use) : Session × Time :=
  match resolveSession idle use.status use.now s.1 with
  | .ok record =>
    if use.raises then s
    else (if use.logout then { record with revokedAt := some use.now } else record, use.now)
  | .error _ => s

variable {idle absolute} {issuedAt now : Time} {s : Session × Time}

theorem resolveSession_ok {status : UserStatus} {record record' : Session} :
    resolveSession idle status now record = .ok record' ↔ record.revokedAt = none ∧
      (now < record.idleExpiresAt ∧ now < record.absoluteExpiresAt) ∧ status = .active ∧
        refreshed idle now record = record' := by
  simp only [resolveSession, bind_ok, require_ok, pure_ok, exists_const]

/-- What is stored of a session is at most five minutes behind its last use. -/
structure Lived (idle absolute issuedAt : Time) (s : Session × Time) : Prop where
  absolute_eq : s.1.absoluteExpiresAt = issuedAt + absolute
  seen : s.1.lastSeenAt ≤ s.2 ∧ s.2 < s.1.lastSeenAt + seconds 300
  idle_le : s.1.idleExpiresAt ≤ s.1.lastSeenAt + idle
  le_idle : min (s.1.lastSeenAt + idle) s.1.absoluteExpiresAt ≤ s.1.idleExpiresAt

theorem lived_issued : Lived idle absolute issuedAt (issueSession idle absolute issuedAt, issuedAt) := by
  refine ⟨rfl, ⟨le_refl issuedAt, ?_⟩, le_refl (issuedAt + idle), min_le_left ..⟩
  exact Nat.lt_add_of_pos_right (by decide)

theorem lived_refreshed (h : Lived idle absolute issuedAt s) (hnow : s.2 ≤ now) :
    Lived idle absolute issuedAt (refreshed idle now s.1, now) := by
  obtain ⟨habsolute, hseen, hidle, hle⟩ := h
  unfold refreshed
  split_ifs with hlate
  · exact ⟨habsolute, ⟨le_rfl, Nat.lt_add_of_pos_right (by decide)⟩, min_le_left .., le_rfl⟩
  · exact ⟨habsolute, ⟨hseen.1.trans hnow, Nat.not_le.1 hlate⟩, hidle, hle⟩

theorem lived_revoked (h : Lived idle absolute issuedAt s) (revokedAt : Option Time) :
    Lived idle absolute issuedAt ({ s.1 with revokedAt := revokedAt }, s.2) :=
  ⟨h.absolute_eq, h.seen, h.idle_le, h.le_idle⟩

theorem useStep_cases (idle : Time) (s : Session × Time) (use : Use) :
    useStep idle s use = s ∨ ∃ record, resolveSession idle use.status use.now s.1 = .ok record ∧
      useStep idle s use =
        (if use.logout then { record with revokedAt := some use.now } else record, use.now) := by
  unfold useStep
  cases resolveSession idle use.status use.now s.1 with
  | error e => exact .inl rfl
  | ok record =>
    by_cases hraises : use.raises
    · exact .inl (if_pos hraises)
    · exact .inr ⟨record, rfl, if_neg hraises⟩

theorem lived_step (h : Lived idle absolute issuedAt s) (use : Use) (hnow : s.2 ≤ use.now) :
    Lived idle absolute issuedAt (useStep idle s use) ∧ (useStep idle s use).2 ≤ use.now := by
  rcases useStep_cases idle s use with hstep | ⟨record, hresolve, hstep⟩
  · rw [hstep]
    exact ⟨h, hnow⟩
  · have hlived : Lived idle absolute issuedAt (record, use.now) := by
      obtain ⟨-, -, -, hrecord⟩ := resolveSession_ok.1 hresolve
      rw [← hrecord]
      exact lived_refreshed h hnow
    rw [hstep]
    refine ⟨?_, le_refl use.now⟩
    by_cases hlogout : use.logout
    · rw [if_pos hlogout]
      exact lived_revoked hlived (some use.now)
    · rw [if_neg hlogout]
      exact hlived

theorem lived_run (h : Lived idle absolute issuedAt s) (uses : List Use)
    (hclock : uses.Pairwise (·.now ≤ ·.now)) (hnow : ∀ use ∈ uses, s.2 ≤ use.now) :
    Lived idle absolute issuedAt (exec (useStep idle) s uses) := by
  induction uses generalizing s with
  | nil => exact h
  | cons use uses ih =>
    obtain ⟨hfirst, hclock⟩ := List.pairwise_cons.1 hclock
    obtain ⟨hstep, hle⟩ := lived_step h use (hnow use List.mem_cons_self)
    exact ih hstep hclock (fun later hlater => hle.trans (hfirst later hlater))

/-- A session that a request of an active user is refused with. -/
def Spent (now : Time) (record : Session) : Prop :=
  record.revokedAt ≠ none ∨ record.idleExpiresAt ≤ now ∨ record.absoluteExpiresAt ≤ now

theorem spent_refused {status : UserStatus} {record record' : Session} {later : Time}
    (h : Spent now record) (hlater : now ≤ later) :
    resolveSession idle status later record ≠ .ok record' := by
  intro hok
  obtain ⟨hrevoked, ⟨hidle, habsolute⟩, -⟩ := resolveSession_ok.1 hok
  rcases h with h | h | h
  · exact h hrevoked
  · exact absurd hidle (Nat.not_lt.2 (h.trans hlater))
  · exact absurd habsolute (Nat.not_lt.2 (h.trans hlater))

theorem spent_run (h : Spent now s.1) (uses : List Use) (hnow : ∀ use ∈ uses, now ≤ use.now) :
    (exec (useStep idle) s uses) = s := by
  induction uses with
  | nil => rfl
  | cons use uses ih =>
    have hsame : useStep idle s use = s := by
      rcases useStep_cases idle s use with hstep | ⟨record, hresolve, -⟩
      · exact hstep
      · exact absurd hresolve (spent_refused h (hnow use List.mem_cons_self))
    rw [exec_cons, hsame]
    exact ih (fun later hlater => hnow later (List.mem_cons_of_mem _ hlater))

theorem spent_of_refused (hrefused : ∀ record, resolveSession idle .active now s.1 ≠ .ok record) :
    Spent now s.1 := by
  by_contra hnot
  simp only [Spent, not_or, not_not, Nat.not_le] at hnot
  exact hrefused _ (resolveSession_ok.2 ⟨hnot.1, hnot.2, rfl, rfl⟩)

theorem accepted_before {status : UserStatus} {record : Session}
    (h : Lived idle absolute issuedAt s) (hok : resolveSession idle status now s.1 = .ok record) :
    now < issuedAt + absolute ∧ now < s.2 + idle := by
  obtain ⟨-, ⟨hnow, hend⟩, -⟩ := resolveSession_ok.1 hok
  exact ⟨h.absolute_eq ▸ hend,
    hnow.trans_le (h.idle_le.trans (Nat.add_le_add_right h.seen.1 idle))⟩

theorem within_idle {now gap used seen idle : ℕ} (hgap : now + gap ≤ used + idle)
    (hused : used < seen + gap) : now < seen + idle := by
  omega

theorem accepted_early (h : Lived idle absolute issuedAt s) (hrevoked : s.1.revokedAt = none)
    (hlife : now < issuedAt + absolute) (hgap : now + seconds 300 ≤ s.2 + idle) :
    ∃ record, resolveSession idle .active now s.1 = .ok record := by
  have hend : now < s.1.absoluteExpiresAt := h.absolute_eq ▸ hlife
  have hseen : now < s.1.lastSeenAt + idle := within_idle hgap h.seen.2
  exact ⟨_, resolveSession_ok.2
    ⟨hrevoked, ⟨lt_of_lt_of_le (lt_min hseen hend) h.le_idle, hend⟩, rfl, rfl⟩⟩

/-- A session and when it was last accepted, after the requests made with its cookie. -/
def afterUses (idle absolute issuedAt : Time) (uses : List Use) : Session × Time :=
  exec (useStep idle) (issueSession idle absolute issuedAt, issuedAt) uses

/-- However a session is used: it is accepted only before the end of its lifetime and within the idle
time after its last use, it is accepted where it is used again five minutes before that, and once
it is refused to an active user it is refused for good, although the refusal stores nothing. -/
theorem session_lifetime (idle absolute issuedAt : Time) (uses : List Use)
    (hclock : uses.Pairwise (·.now ≤ ·.now)) (hissued : ∀ use ∈ uses, issuedAt ≤ use.now)
    (now : Time) (status : UserStatus) :
    (∀ record, resolveSession idle status now (afterUses idle absolute issuedAt uses).1 = .ok record →
      now < issuedAt + absolute ∧ now < (afterUses idle absolute issuedAt uses).2 + idle) ∧
    ((afterUses idle absolute issuedAt uses).1.revokedAt = none → now < issuedAt + absolute →
      now + seconds 300 ≤ (afterUses idle absolute issuedAt uses).2 + idle →
        ∃ record,
          resolveSession idle .active now (afterUses idle absolute issuedAt uses).1 = .ok record) ∧
    ((∀ record, resolveSession idle .active now (afterUses idle absolute issuedAt uses).1 ≠ .ok record) →
      ∀ later, (∀ use ∈ later, now ≤ use.now) → ∀ time record, now ≤ time →
        resolveSession idle status time
          (exec (useStep idle) (afterUses idle absolute issuedAt uses) later).1 ≠ .ok record) := by
  have hlived : Lived idle absolute issuedAt (afterUses idle absolute issuedAt uses) :=
    lived_run lived_issued uses hclock hissued
  refine ⟨fun record hok => accepted_before hlived hok, fun hrevoked hlife hgap =>
    accepted_early hlived hrevoked hlife hgap, fun hrefused later hlater time record htime => ?_⟩
  rw [spent_run (spent_of_refused hrefused) later hlater]
  exact spent_refused (spent_of_refused hrefused) htime

theorem refreshed_session_accepted : ∃ record, resolveSession (seconds 600) .active (seconds 700)
    (afterUses (seconds 600) (seconds 1000) 0 [⟨seconds 400, .active, false, false⟩]).1 = .ok record :=
  (session_lifetime (seconds 600) (seconds 1000) 0 [⟨seconds 400, .active, false, false⟩]
    (List.pairwise_singleton _ _) (fun _ _ => Nat.zero_le _) (seconds 700) .active).2.1
    rfl (by decide) (by decide)

end Sessions
end RoozDataCloud.SignIns
