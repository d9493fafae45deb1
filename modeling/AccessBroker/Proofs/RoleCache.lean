import AccessBroker.Proofs.RoleText
import AccessBroker.Proofs.Roles

/-! # How long a reading of the cloud is served

A role that was read from the cloud is served from the tiers until it is
neither fresh in the fast one nor lasting in the durable one.  Until then
nothing but reading it anew puts anything else in its place: what else is
fetched, refreshed or purged leaves its entries alone.
-/

namespace AccessBroker

namespace Service

def asksCloud : CallKind → Bool
  | .fetchRole | .listRoleArns | .putInlinePolicy | .attachManagedPolicy => true
  | _ => false

/-- The tiers hold the role as it was read from the cloud: the fast one since then or later, the
durable one as long as its row lasts. -/
structure Cached (settings : Settings) (key : RoleKey) (r : RoleDocument) (w : World) : Prop where
  past : r.fetchedAt ≤ w.now
  fast : ∃ since, w.fast.get? key = some ⟨r, since⟩ ∧ r.fetchedAt ≤ since
  durable : w.now.seconds < r.fetchedAt.seconds + settings.durableLifetime →
    w.durable.find? key = some (durableRow settings key r)

/-- When a role is neither fresh nor lasting any more, if it was put into the tiers when it was
read. -/
def servedUntil (settings : Settings) (r : RoleDocument) : Int :=
  r.fetchedAt.seconds + max settings.fastFreshness settings.durableLifetime

section

variable {settings : Settings} {key : RoleKey} {r : RoleDocument} {w left : World}

/-! ## Times -/

theorem seconds_now_lt (w : World) : w.now.seconds < 8210266876800 := by
  have := w.clock.latest
  simp only [World.now, Instant.timestamp]
  omega

/-- What is no longer fresh was put into the fast tier a whole freshness ago. -/
theorem le_now_of_stale {now since : Timestamp} (stale : isFresh settings now ⟨r, since⟩ = false) :
    since.seconds + settings.fastFreshness ≤ now.seconds := by
  have long : ¬ now.since since < settings.fastFreshness := of_decide_eq_false stale
  simp only [Timestamp.since, Timestamp.clamp] at long
  omega

theorem lt_expiry_of_lt (h : w.now.seconds < r.fetchedAt.seconds + settings.durableLifetime) :
    w.now < (durableRow settings key r).expiry := by
  -- The expiry is at most the last second that 64 bits hold, which no clock reaches.
  have bound := seconds_now_lt w
  show w.now.seconds < (Timestamp.clamp _).seconds
  simp only [Timestamp.clamp]
  omega

theorem fetchedAt_finalize (settings : Settings) (now : Timestamp) (d : RoleDocument) :
    (finalize settings now d).fetchedAt = now := rfl

/-! ## What keeps a role in the tiers -/

namespace Cached

theorem of_same (h : Cached settings key r w) (now : left.now = w.now)
    (fast : left.fast.get? key = w.fast.get? key)
    (durable : left.durable.find? key = w.durable.find? key) : Cached settings key r left where
  past := by rw [now]; exact h.past
  fast := by rw [fast]; exact h.fast
  durable := by rw [now, durable]; exact h.durable

theorem alike (h : Cached settings key r w) (alike : World.Alike w left) :
    Cached settings key r left :=
  h.of_same alike.now (by rw [alike.fast]) (by rw [alike.durable])

theorem later (h : Cached settings key r w) (fast : left.fast = w.fast)
    (durable : left.durable = w.durable) (clock : w.clock.micros ≤ left.clock.micros) :
    Cached settings key r left := by
  have forward : w.now.seconds ≤ left.now.seconds := World.now_le_now clock
  refine ⟨Int.le_trans h.past forward, by rw [fast]; exact h.fast, fun lasts => ?_⟩
  rw [durable]
  exact h.durable (by omega)

theorem setFast (h : Cached settings key r w) :
    Cached settings key r { w with fast := w.fast.insert key ⟨r, w.now⟩ } where
  past := h.past
  fast := ⟨w.now, by rw [Registry.get?_insert, if_pos rfl], h.past⟩
  durable := h.durable

theorem purge (h : Cached settings key r w) :
    Cached settings key r { w with durable := (w.durable.purge w.now).2 } where
  past := h.past
  fast := h.fast
  durable lasts := DurableTier.find?_purge (h.durable lasts) (lt_expiry_of_lt lasts)

theorem of_saved (now : r.fetchedAt = w.now) :
    Cached settings key r { w with
      fast := w.fast.insert key ⟨r, w.now⟩
      durable := w.durable.save (durableRow settings key r) } where
  past := Int.le_of_eq (congrArg Timestamp.seconds now)
  fast := ⟨w.now, by rw [Registry.get?_insert, if_pos rfl],
    Int.le_of_eq (congrArg Timestamp.seconds now)⟩
  durable _ := by rw [DurableTier.find?_save]; exact if_pos rfl

end Cached

/-- What is done about other roles does not matter. -/
theorem overlooksTiers_cached {other : RoleKey} (apart : other ≠ key) :
    OverlooksTiers (fun _ => false) other (Cached settings key r) where
  books _ _ alike _ h := h.alike alike
  quiet := ⟨rfl, rfl⟩
  fast w entry h := h.of_same rfl (by rw [Registry.get?_insert, if_neg (Ne.symm apart)]) rfl
  durable w row arn account h := by
    exact h.of_same rfl rfl (DurableTier.find?_save_of_ne apart arn account)

end

section

variable {setup : Setup} {key : RoleKey} {r : RoleDocument} {w : World}

/-- Until its time is over, the tiers give the role and go on holding it. -/
theorem ends_readTiers_of_cached (answers : w.TiersAnswer) (h : Cached setup.settings key r w)
    (readable : RoleDocument.ofPolicyText r.policyText = .ok r)
    (soon : w.now.seconds < servedUntil setup.settings r) :
    Ends setup w (readTiers key) (fun role left => role = some r ∧ Cached setup.settings key r left)
      fun _ _ => False := by
  obtain ⟨since, held, later⟩ := h.fast
  -- If the time that is left is not that of the fast tier, it is that of the row.
  have row_of_stale : (∀ entry, w.fast.get? key = some entry →
      isFresh setup.settings w.now entry = false) →
      w.now.seconds < r.fetchedAt.seconds + setup.settings.durableLifetime := by
    intro stale
    have long := le_now_of_stale (stale _ held)
    have later : r.fetchedAt.seconds ≤ since.seconds := later
    simp only [servedUntil] at soon
    omega
  refine ends_readTiers answers (fun entry left here _ alike => ?_)
    (fun row role left stale here _ parsed alike => ?_) (fun left stale ranOut _ => ?_)
    fun row e left stale here _ unparsed _ => ?_
  · cases held.symm.trans here
    exact ⟨rfl, h.alike alike⟩
  · cases (h.durable (row_of_stale stale)).symm.trans here
    cases readable.symm.trans parsed
    exact ⟨rfl, h.setFast.alike alike⟩
  · have lasts := row_of_stale stale
    exact (ranOut _ (h.durable lasts) (lt_expiry_of_lt lasts)).elim
  · cases (h.durable (row_of_stale stale)).symm.trans here
    cases readable.symm.trans unparsed

/-- Until its time is over, a cached role is served without a call to the cloud. -/
theorem ends_fetchRole_of_cached (answers : w.TiersAnswer) (h : Cached setup.settings key r w)
    (readable : RoleDocument.ofPolicyText r.policyText = .ok r)
    (soon : w.now.seconds < servedUntil setup.settings r) :
    Ends setup w (fetchRole key false)
      (fun role left => role = some r ∧ Cached setup.settings key r left ∧
        made asksCloud left = made asksCloud w)
      fun _ _ => False := by
  have uncalled : Keeps setup (fun left => made asksCloud left = made asksCloud w) (readTiers key) :=
    .readTiers (overlooksTiers_made ⟨rfl, rfl⟩ key)
  have kept : Ends setup w (readTiers key)
      (fun _ left => made asksCloud left = made asksCloud w) fun _ _ => True :=
    uncalled.ends rfl (fun _ _ same => same) fun _ _ _ => trivial
  rw [fetchRole_eq, if_neg Bool.false_ne_true, ends_bind]
  refine ((ends_readTiers_of_cached answers h readable soon).and kept).mono ?_ fun _ _ h => h.1
  rintro _ left ⟨⟨rfl, cached⟩, same⟩
  exact ⟨rfl, cached, same⟩

theorem ends_refreshRole_of_answers (answers : w.TiersAnswer) :
    Ends setup w (refreshRole key)
      (fun role left => ∀ r, role = some r → Cached setup.settings key r left ∧ r.fetchedAt = w.now)
      fun _ _ => True := by
  refine ends_refreshRole (fun left _ _ r read => nomatch read)
    (fun d fast left _ _ put alike => ?_) fun _ _ _ _ => trivial
  obtain rfl := put.eq (answers .putFast rfl)
  intro r read
  obtain rfl := Option.some.inj read
  have cached : Cached setup.settings key (finalize setup.settings w.now d) _ :=
    .of_saved (fetchedAt_finalize ..)
  exact ⟨cached.alike alike, fetchedAt_finalize ..⟩

/-- A role that was served with a call to the cloud is in both tiers. -/
theorem ends_fetchRole_of_answers (answers : w.TiersAnswer) (force : Bool) :
    Ends setup w (fetchRole key force)
      (fun role left => ∀ r, role = some r → made asksCloud left = made asksCloud w ∨
        Cached setup.settings key r left ∧ r.fetchedAt = w.now)
      fun _ _ => True := by
  have uncalled : Keeps setup (fun left => made asksCloud left = made asksCloud w ∧
      left.now = w.now ∧ left.TiersAnswer) (readTiers key) := .readTiers {
    books := fun _ _ alike made h =>
      ⟨made.trans h.1, alike.now.trans h.2.1, h.2.2.rest alike.leftOver⟩
    quiet := ⟨rfl, rfl⟩
    fast := fun _ _ h => h
    durable := fun _ _ _ _ h => h }
  rw [fetchRole_eq]
  split
  · exact (ends_refreshRole_of_answers answers).mono (fun _ _ h r read => .inr (h r read))
      fun _ _ h => h
  · rw [ends_bind]
    refine uncalled.ends ⟨rfl, rfl, answers⟩ (fun role left ⟨same, now, answers⟩ => ?_)
      fun _ _ _ => trivial
    cases role with
    | some role => exact fun _ _ => .inl same
    | none =>
      refine (ends_refreshRole_of_answers answers).mono (fun role after h r read => ?_)
        fun _ _ h => h
      have ⟨cached, fetched⟩ := h r read
      exact .inr ⟨cached, fetched.trans now⟩

end

end Service

/-! ## Calls -/

inductive RoleCall where
  | fetch (key : RoleKey) (force : Bool)
  | refreshAccount (account : String)
  | purge

namespace RoleCall

open Service

def after (setup : Setup) (w : World) : RoleCall → World
  | fetch key force => ((fetchRole key force).perform setup w).2
  | refreshAccount account => ((Service.refreshAccount account).perform setup w).2
  | purge => (purgeExpired.perform setup w).2

/-- The call does not make the cloud be read again for the role: neither itself, nor because the
role is listed with those of its account. -/
def Spares (setup : Setup) (key : RoleKey) (w : World) : RoleCall → Prop
  | fetch other force => other = key → force = false
  | refreshAccount account => ∀ arns left,
    (listCloudRoles account).perform setup w = (.ok arns, left) →
      ∀ arn ∈ arns, RoleKey.of account arn ≠ .ok key
  | purge => True

variable {setup : Setup} {key : RoleKey} {r : RoleDocument} {w : World}

/-- What depends neither on the bookkeeping nor on the tiers outlives a call. -/
theorem keeps_after {p : World → Prop} (c : RoleCall) (books : Overlooks p)
    (fast : ∀ w t, p w → p { w with fast := t }) (durable : ∀ w t, p w → p { w with durable := t })
    (h : p w) : p (c.after setup w) := by
  have tiers (key : RoleKey) : OverlooksTiers (fun _ => false) key p :=
    ⟨books, ⟨rfl, rfl⟩, fun w _ => fast w _, fun w _ _ _ => durable w _⟩
  cases c with
  | fetch key force => exact Keeps.fetchRole (tiers key) rfl force w h
  | refreshAccount account =>
    exact Keeps.refreshAccount books (fun _ _ _ _ _ key _ => .fetchRole (tiers key) rfl true) h
  | purge =>
    refine Ends.left (p := p) ?_
    simp only [purgeExpired, ends_bind, ends_now]
    refine ends_purgeDurable (fun left alike => ?_) fun _ left _ alike => ?_
    · exact books.alike alike (durable w _ h)
    · exact books.alike alike h

/-- The clock stands still during a call. -/
theorem clock_after (c : RoleCall) : (c.after setup w).clock = w.clock :=
  c.keeps_after (p := fun left => left.clock = w.clock) (fun _ _ alike _ h => alike.clock.trans h)
    (fun _ _ h => h) (fun _ _ h => h) rfl

theorem answers_after (c : RoleCall) (h : w.TiersAnswer) : (c.after setup w).TiersAnswer :=
  c.keeps_after (fun _ _ alike _ h => h.rest alike.leftOver) (fun _ _ h => h) (fun _ _ h => h) h

theorem now_after (c : RoleCall) : (c.after setup w).now = w.now :=
  congrArg Instant.timestamp c.clock_after

/-- No call that spares the role drops it from the tiers before its time is over. -/
theorem cached_after {c : RoleCall} (answers : w.TiersAnswer) (spares : c.Spares setup key w)
    (h : Cached setup.settings key r w) (readable : RoleDocument.ofPolicyText r.policyText = .ok r)
    (soon : w.now.seconds < servedUntil setup.settings r) :
    Cached setup.settings key r (c.after setup w) := by
  cases c with
  | fetch other force =>
    by_cases same : other = key
    · subst same
      obtain rfl := spares rfl
      exact ((ends_fetchRole_of_cached answers h readable soon).mono
        (fun _ _ served => served.2.1) fun _ _ h => h.elim).left
    · exact Keeps.fetchRole (overlooksTiers_cached same) rfl force w h
  | refreshAccount account =>
    refine Keeps.refreshAccount (fun _ _ alike _ h => h.alike alike) ?_ h
    intro arns left listed arn hm other own
    refine .fetchRole (overlooksTiers_cached ?_) rfl true
    rintro rfl
    exact spares arns left listed arn hm own
  | purge =>
    refine Ends.left (p := Cached setup.settings key r) ?_
    simp only [purgeExpired, ends_bind, ends_now]
    exact ends_purgeDurable (fun left alike => h.purge.alike alike)
      fun _ left _ alike => h.alike alike

end RoleCall

/-! ## Runs -/

/-- The worlds that calls of the role cache reach which do not read the role `key` anew.  In
between time passes and anything may change but the tiers, the cloud included. -/
inductive RoleRun (setup : Setup) (key : RoleKey) (start : World) : World → Prop where
  | start : RoleRun setup key start start
  | move {w moved : World} (run : RoleRun setup key start w) (fast : moved.fast = w.fast)
    (durable : moved.durable = w.durable) (clock : w.clock.micros ≤ moved.clock.micros) :
    RoleRun setup key start moved
  | call {w : World} (run : RoleRun setup key start w) (answers : w.TiersAnswer) (c : RoleCall)
    (spares : c.Spares setup key w) : RoleRun setup key start (c.after setup w)

namespace RoleRun

open Service

variable {setup : Setup} {key : RoleKey} {r : RoleDocument} {start w : World}

theorem cached (run : RoleRun setup key start w) (atStart : Cached setup.settings key r start)
    (readable : RoleDocument.ofPolicyText r.policyText = .ok r)
    (soon : w.now.seconds < servedUntil setup.settings r) : Cached setup.settings key r w := by
  -- The clock never goes back, so it was early enough for the role at every step on the way.
  induction run with
  | start => exact atStart
  | move _ fast durable clock ih =>
    refine (ih ?_).later fast durable clock
    simp only [World.now, Instant.timestamp] at soon ⊢
    omega
  | call _ answers c spares ih =>
    rw [c.now_after] at soon
    exact c.cached_after answers spares (ih soon) readable soon

/-- Once a role was read from the cloud, it is served as it was then, without another call to the
cloud, for as long as it is fresh in the fast tier or lives in the durable one: whatever the cloud
holds by then and whatever else was fetched, refreshed or purged, unless it was itself read anew. -/
theorem serves_reading {force : Bool} {fetched : World} (answers : start.TiersAnswer)
    (reading : (fetchRole key force).perform setup start = (.ok (some r), fetched))
    (asked : made asksCloud fetched ≠ made asksCloud start) (exact_ : r.toTree.exact = true)
    (fits : r.toTree.depth ≤ Json.maxDepth) (run : RoleRun setup key fetched w)
    (answersThen : w.TiersAnswer)
    (soon : w.now.seconds <
      start.now.seconds + max setup.settings.fastFreshness setup.settings.durableLifetime) :
    ∃ left, (fetchRole key false).perform setup w = (.ok (some r), left) ∧
      made asksCloud left = made asksCloud w := by
  have readable := RoleDocument.ofPolicyText_policyText exact_ fits
  obtain ⟨cached, fetchedAt⟩ :=
    ((ends_fetchRole_of_answers answers force).of_ok reading r rfl).resolve_left asked
  have soon : w.now.seconds < servedUntil setup.settings r := by rwa [servedUntil, fetchedAt]
  obtain ⟨_, left, served, rfl, -, same⟩ :=
    (ends_fetchRole_of_cached answersThen (run.cached cached readable soon) readable soon).ok
  exact ⟨left, served, same⟩

/-! ## A small cloud -/

def auditor : RoleKey :=
  ⟨"123456789012", "arn:aws:iam::123456789012:role/auditor", by decide +kernel⟩

def auditorShown : RoleDocument where
  arn := auditor.arn
  account := auditor.account
  roleName := "auditor"
  roleId := "AROAAUDITOR"
  trustPolicy := .null
  inlinePolicies := .empty
  managedPolicies := []
  tags := .empty
  templated := none
  fetchedAt := default

def withAuditor : World :=
  .start ⟨.ofList [(auditor, auditorShown)]⟩ default

def auditorRead : World :=
  ((fetchRole auditor false).perform default withAuditor).2

def auditorGone : World :=
  { auditorRead with cloud := ⟨.empty⟩, clock := ⟨7200000000, by decide, by decide⟩ }

/-- By then it is served from the durable tier, also if rows were purged. -/
theorem serves_auditor :
    ∃ left, (fetchRole auditor false).perform default (RoleCall.purge.after default auditorGone) =
        (.ok (some auditorShown), left) ∧
      made asksCloud left = made asksCloud (RoleCall.purge.after default auditorGone) := by
  have answers (w : World) (plan : w.plan.isEmpty = true) : w.TiersAnswer :=
    fun kind _ => World.undisturbed_of_unplanned (List.isEmpty_iff.1 plan) kind
  have ⟨served, once, clock, plan⟩ :
      ((fetchRole auditor false).perform default withAuditor).1.toOption =
        some (some auditorShown) ∧
      (made asksCloud auditorRead).length = 1 ∧ auditorRead.clock.micros = 0 ∧
        auditorRead.plan.isEmpty = true := by
    decide +kernel
  have reading : (fetchRole auditor false).perform default withAuditor =
      (.ok (some auditorShown), auditorRead) := by
    rcases run : (fetchRole auditor false).perform default withAuditor with ⟨_ | role, left⟩
    · rw [run] at served
      cases served
    · rw [run] at served
      cases served
      rw [auditorRead, run]
  have asked : made asksCloud auditorRead ≠ made asksCloud withAuditor := by
    intro same
    rw [same] at once
    cases once
  have moved : RoleRun default auditor auditorRead auditorGone :=
    .move .start rfl rfl (by rw [clock]; decide)
  have run := moved.call (answers _ plan) .purge trivial
  exact serves_reading (answers _ rfl) reading asked rfl (by decide) run
    (answers _ (by decide +kernel)) (by rw [RoleCall.now_after]; decide)

end RoleRun

end AccessBroker
