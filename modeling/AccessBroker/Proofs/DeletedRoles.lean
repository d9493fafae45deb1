import AccessBroker.Proofs.RoleCache

/-! # Roles that are gone from the cloud

Whoever has the cloud asked is told that a role is gone, but nothing is noted of
it: the tiers keep what they hold.  So a role that was found missing may come
back from them, for as long as a copy that they held by then is fresh, or its
row lasts, or what was served of the row is fresh.  Nothing else comes back.
-/

namespace AccessBroker

namespace Service

/-! ## What the tiers still give -/

/-- What the row that the durable tier held of a role in a world says at some time. -/
def rowRole (gone : World) (key : RoleKey) (now : Timestamp) : Option RoleDocument :=
  match gone.durable.find? key with
  | some row =>
    if now < row.expiry then (RoleDocument.ofPolicyText row.policy).toOption else none
  | none => none

/-- What the fast tier holds of a role that was found missing, once it was read at some times,
latest first.  Whatever is not fresh by then gives way to what the row says. -/
def heldAfter (settings : Settings) (gone : World) (key : RoleKey) :
    List Timestamp → Option FastEntry
  | [] => gone.fast.get? key
  | now :: earlier =>
    let held := heldAfter settings gone key earlier
    if held.any (isFresh settings now) then held
    else match rowRole gone key now with
      | some role => some ⟨role, now⟩
      | none => held

def Stale (settings : Settings) (held : Option FastEntry) (now : Timestamp) : Prop :=
  ∀ entry, held = some entry → isFresh settings now entry = false

def RanOut (gone : World) (key : RoleKey) (now : Timestamp) : Prop :=
  ∀ row, gone.durable.find? key = some row → ¬ now < row.expiry

/-- One of the readings since a world was left made the entry of the row that the durable tier held
in it. -/
structure Renewed (gone : World) (key : RoleKey) (reads : List Timestamp) (now : Timestamp)
    (entry : FastEntry) : Prop where
  read : entry.cachedAt ∈ reads
  since : gone.now ≤ entry.cachedAt
  past : entry.cachedAt ≤ now
  role : rowRole gone key entry.cachedAt = some entry.role

/-- What a reading comes to when a role was found missing in the world `gone` and was read since: it
is missing again, unless a tier has a copy of what it held by then whose time is not over. -/
inductive Echo (settings : Settings) (gone : World) (key : RoleKey) (reads : List Timestamp)
    (now : Timestamp) : Option RoleDocument → Prop where
  | missing (stale : Stale settings (gone.fast.get? key) now)
    (spent : Stale settings (heldAfter settings gone key reads) now) (ranOut : RanOut gone key now) :
    Echo settings gone key reads now none
  | fast {entry : FastEntry} (held : heldAfter settings gone key reads = some entry)
    (origin : gone.fast.get? key = some entry ∨ Renewed gone key reads now entry)
    (fresh : isFresh settings now entry = true) : Echo settings gone key reads now (some entry.role)
  | durable {role : RoleDocument} (stale : Stale settings (gone.fast.get? key) now)
    (spent : Stale settings (heldAfter settings gone key reads) now)
    (lasts : rowRole gone key now = some role) : Echo settings gone key reads now (some role)

/-- The row that the durable tier held lasts and cannot be read, and nothing else is left. -/
structure Unreadable (settings : Settings) (gone : World) (key : RoleKey) (reads : List Timestamp)
    (now : Timestamp) (e : Error) : Prop where
  spent : Stale settings (heldAfter settings gone key reads) now
  row : ∃ row, gone.durable.find? key = some row ∧ now < row.expiry ∧
    RoleDocument.ofPolicyText row.policy = .error e

section

variable {settings : Settings} {gone w left : World} {key : RoleKey} {now after : Timestamp}
  {reads : List Timestamp} {found : Option FastEntry} {answer : Option RoleDocument}
  {entry : FastEntry} {role : RoleDocument} {row : DurableRow} {e : Error}

theorem isFresh_of_later (forward : now ≤ after) (fresh : isFresh settings after entry = true) :
    isFresh settings now entry = true := by
  have forward : now.seconds ≤ after.seconds := forward
  have short : after.since entry.cachedAt < settings.fastFreshness := of_decide_eq_true fresh
  apply decide_eq_true
  simp only [Timestamp.since, Timestamp.clamp] at short ⊢
  omega

theorem Stale.later (stale : Stale settings found now) (forward : now ≤ after) :
    Stale settings found after := by
  intro entry here
  rw [Bool.eq_false_iff]
  intro fresh
  have fresh := isFresh_of_later forward fresh
  rw [stale entry here] at fresh
  cases fresh

theorem RanOut.later (ranOut : RanOut gone key now) (forward : now ≤ after) :
    RanOut gone key after := by
  intro row held lasts
  exact ranOut row held (Int.lt_of_le_of_lt forward lasts)

theorem rowRole_of_row (here : gone.durable.find? key = some row) (lasts : now < row.expiry) :
    rowRole gone key now = (RoleDocument.ofPolicyText row.policy).toOption := by
  rw [rowRole, here]
  exact if_pos lasts

theorem RanOut.rowRole (ranOut : RanOut gone key now) : rowRole gone key now = none := by
  unfold Service.rowRole
  split
  · next row here => exact if_neg (ranOut row here)
  · rfl

theorem Unreadable.rowRole (unreadable : Unreadable settings gone key reads now e) :
    rowRole gone key now = none := by
  obtain ⟨row, held, lasts, unparsed⟩ := unreadable.row
  rw [rowRole_of_row held lasts, unparsed]
  rfl

/-! A reading leaves what is fresh, and else puts in what the row says. -/

theorem heldAfter_cons_of_fresh (here : heldAfter settings gone key reads = some entry)
    (fresh : isFresh settings now entry = true) :
    heldAfter settings gone key (now :: reads) = some entry := by
  simp only [heldAfter, here, Option.any_some, if_pos fresh]

theorem heldAfter_cons_of_row (stale : Stale settings (heldAfter settings gone key reads) now)
    (lasts : rowRole gone key now = some role) :
    heldAfter settings gone key (now :: reads) = some ⟨role, now⟩ := by
  have none : (heldAfter settings gone key reads).any (isFresh settings now) ≠ true := by
    cases here : heldAfter settings gone key reads with
    | none => exact Bool.false_ne_true
    | some entry => exact Bool.eq_false_iff.1 (stale entry here)
  simp only [heldAfter, if_neg none, lasts]

theorem heldAfter_cons_of_none (nothing : rowRole gone key now = none) :
    heldAfter settings gone key (now :: reads) = heldAfter settings gone key reads := by
  simp only [heldAfter, nothing, ite_self]

/-- What was held by then and is still fresh was not replaced. -/
theorem heldAfter_of_fresh (here : gone.fast.get? key = some entry)
    (fresh : isFresh settings now entry = true) (past : ∀ t ∈ reads, t ≤ now) :
    heldAfter settings gone key reads = some entry := by
  induction reads with
  | nil => exact here
  | cons t earlier ih =>
    have before : ∀ t ∈ earlier, t ≤ now := fun t member => past t (List.mem_cons_of_mem _ member)
    exact heldAfter_cons_of_fresh (ih before) (isFresh_of_later (past t List.mem_cons_self) fresh)

theorem Stale.of_heldAfter (spent : Stale settings (heldAfter settings gone key reads) now)
    (past : ∀ t ∈ reads, t ≤ now) : Stale settings (gone.fast.get? key) now := by
  intro entry here
  rw [Bool.eq_false_iff]
  intro fresh
  rw [spent entry (heldAfter_of_fresh here fresh past)] at fresh
  cases fresh

/-- Whatever is held was held by then, or was made of the row by a reading. -/
theorem heldAfter_cases (here : heldAfter settings gone key reads = some entry) :
    gone.fast.get? key = some entry ∨
      entry.cachedAt ∈ reads ∧ rowRole gone key entry.cachedAt = some entry.role := by
  induction reads with
  | nil => exact .inl here
  | cons now earlier ih =>
    have onwards (h : heldAfter settings gone key earlier = some entry) :=
      (ih h).imp_right fun ⟨read, role⟩ => And.intro (List.mem_cons_of_mem now read) role
    simp only [heldAfter] at here
    split at here
    · exact onwards here
    · split at here
      · next role lasts =>
        cases here
        exact .inr ⟨List.mem_cons_self, lasts⟩
      · exact onwards here

/-- If the tiers held nothing that was good any more, the role stays missing. -/
theorem Echo.eq_none (echo : Echo settings gone key reads now answer) (forward : gone.now ≤ now)
    (stale : Stale settings (gone.fast.get? key) gone.now) (ranOut : RanOut gone key gone.now) :
    answer = none := by
  cases echo with
  | missing => rfl
  | fast held origin fresh =>
    rcases origin with here | renewed
    · rw [stale.later forward _ here] at fresh
      cases fresh
    · have role := renewed.role
      rw [(ranOut.later renewed.since).rowRole] at role
      cases role
  | durable stale spent lasts =>
    rw [(ranOut.later forward).rowRole] at lasts
    cases lasts

/-- Once nothing in the fast tier is good any more, what the row says is told. -/
theorem Echo.eq_rowRole (echo : Echo settings gone key reads now answer)
    (spent : Stale settings (heldAfter settings gone key reads) now) :
    answer = rowRole gone key now := by
  cases echo with
  | missing stale spent ranOut => exact ranOut.rowRole.symm
  | fast held origin fresh =>
    rw [spent _ held] at fresh
    cases fresh
  | durable stale spent lasts => exact lasts.symm

theorem Echo.eq_of_held (echo : Echo settings gone key reads now answer)
    (held : heldAfter settings gone key reads = some entry)
    (fresh : isFresh settings now entry = true) : answer = some entry.role := by
  cases echo with
  | missing stale spent ranOut =>
    rw [spent entry held] at fresh
    cases fresh
  | fast held' origin fresh' => rw [Option.some.inj (held'.symm.trans held)]
  | durable stale spent lasts =>
    rw [spent entry held] at fresh
    cases fresh

/-! ## What stays in the tiers -/

/-- The cloud does not have the role, and the tiers have of it what they held in the world `gone`,
but for what the readings since then made of it and for a row that has run out. -/
structure Lingers (settings : Settings) (gone : World) (key : RoleKey) (reads : List Timestamp)
    (w : World) : Prop where
  absent : w.cloud.role? key = none
  forward : gone.now ≤ w.now
  times : ∀ t ∈ reads, gone.now ≤ t ∧ t ≤ w.now
  fast : w.fast.get? key = heldAfter settings gone key reads
  durable : w.durable.find? key = gone.durable.find? key ∨
    w.durable.find? key = none ∧ RanOut gone key w.now

namespace Lingers

theorem start (absent : gone.cloud.role? key = none) : Lingers settings gone key [] gone where
  absent := absent
  forward := Int.le_refl _
  times := List.forall_mem_nil _
  fast := by rw [heldAfter]
  durable := .inl rfl

theorem of_same (h : Lingers settings gone key reads w) (absent : left.cloud.role? key = none)
    (forward : w.now ≤ left.now) (fast : left.fast.get? key = w.fast.get? key)
    (durable : left.durable.find? key = w.durable.find? key) :
    Lingers settings gone key reads left where
  absent := absent
  forward := Int.le_trans h.forward forward
  times t read := ⟨(h.times t read).1, Int.le_trans (h.times t read).2 forward⟩
  fast := fast.trans h.fast
  durable := by
    rw [durable]
    apply h.durable.imp_right
    rintro ⟨here, ranOut⟩
    exact ⟨here, ranOut.later forward⟩

theorem alike (h : Lingers settings gone key reads w) (alike : World.Alike w left) :
    Lingers settings gone key reads left := by
  apply h.of_same
  · rw [alike.cloud, h.absent]
  · rw [alike.now]
    exact Int.le_refl _
  · rw [alike.fast]
  · rw [alike.durable]

/-- The role is read, and the fast tier has what it is to have then. -/
theorem read (h : Lingers settings gone key reads w)
    (fast : w.fast.get? key = heldAfter settings gone key (w.now :: reads)) :
    Lingers settings gone key (w.now :: reads) w where
  absent := h.absent
  forward := h.forward
  times := List.forall_mem_cons.2 ⟨⟨h.forward, Int.le_refl _⟩, h.times⟩
  fast := fast
  durable := h.durable

theorem past (h : Lingers settings gone key reads w) : ∀ t ∈ reads, t ≤ w.now :=
  fun t member => (h.times t member).2

theorem held (h : Lingers settings gone key reads w)
    (here : w.durable.find? key = some row) : gone.durable.find? key = some row := by
  rcases h.durable with same | ⟨none, -⟩
  · exact same.symm.trans here
  · rw [none] at here
    cases here

theorem ranOut (h : Lingers settings gone key reads w)
    (ranOut : ∀ row, w.durable.find? key = some row → ¬ w.now < row.expiry) :
    RanOut gone key w.now := by
  rcases h.durable with same | ⟨-, ranOut⟩
  · intro row held
    exact ranOut row (same.trans held)
  · exact ranOut

theorem origin (h : Lingers settings gone key reads w) (here : w.fast.get? key = some entry) :
    gone.fast.get? key = some entry ∨ Renewed gone key reads w.now entry := by
  apply (heldAfter_cases (h.fast.symm.trans here)).imp_right
  rintro ⟨read, role⟩
  obtain ⟨since, past⟩ := h.times _ read
  exact ⟨read, since, past, role⟩

/-- What the row says is put into the fast tier by a reading, once nothing there is fresh. -/
theorem setFast (h : Lingers settings gone key reads w)
    (spent : Stale settings (heldAfter settings gone key reads) w.now)
    (lasts : rowRole gone key w.now = some role) :
    Lingers settings gone key (w.now :: reads)
      { w with fast := w.fast.insert key ⟨role, w.now⟩ } where
  absent := h.absent
  forward := h.forward
  times := List.forall_mem_cons.2 ⟨⟨h.forward, Int.le_refl _⟩, h.times⟩
  fast := by
    rw [heldAfter_cons_of_row spent lasts, Registry.get?_insert, if_pos rfl]
  durable := h.durable

theorem purge (h : Lingers settings gone key reads w) :
    Lingers settings gone key reads { w with durable := (w.durable.purge w.now).2 } where
  absent := h.absent
  forward := h.forward
  times := h.times
  fast := h.fast
  durable := by
    cases left : (w.durable.purge w.now).2.find? key with
    | none =>
      refine .inr ⟨rfl, h.ranOut ?_⟩
      intro row here lasts
      rw [DurableTier.find?_purge here lasts] at left
      cases left
    | some row =>
      have here := DurableTier.find?_of_purge left
      exact .inl (h.held here).symm

end Lingers

end

/-! ## Readings of the role -/

variable {setup : Setup} {gone w : World} {key : RoleKey} {reads : List Timestamp}

/-- Nothing that is put into the tiers keeps calls from being answered. -/
theorem overlooksTiers_answers (key : RoleKey) :
    OverlooksTiers (fun _ => false) key fun w => w.AllAnswer setup where
  books _ _ alike _ h := h.rest alike.leftOver
  quiet := ⟨rfl, rfl⟩
  fast _ _ h := h
  durable _ _ _ _ h := h

theorem ends_readTiers_answered (answers : w.AllAnswer setup) :
    Ends setup w (readTiers key) (fun _ left => left.AllAnswer setup) fun _ _ => True :=
  (Keeps.readTiers (overlooksTiers_answers key)).ends answers (fun _ _ answers => answers)
    fun _ _ _ => trivial

/-- The tiers give an echo, and the reading is one more. -/
theorem ends_readTiers_of_lingers (answers : w.TiersAnswer)
    (h : Lingers setup.settings gone key reads w) :
    Ends setup w (readTiers key)
      (fun answer left => Echo setup.settings gone key reads w.now answer ∧
        Lingers setup.settings gone key (w.now :: reads) left)
      fun e left => Unreadable setup.settings gone key reads w.now e ∧
        Lingers setup.settings gone key (w.now :: reads) left := by
  apply ends_readTiers answers
  · intro entry left here fresh alike
    have held := h.fast.symm.trans here
    have fast := here.trans (heldAfter_cons_of_fresh held fresh).symm
    exact ⟨.fast held (h.origin here) fresh, (h.read fast).alike alike⟩
  · intro row role left stale here lasts parsed alike
    rw [h.fast] at stale
    have lasts : rowRole gone key w.now = some role := by
      rw [rowRole_of_row (h.held here) lasts, parsed]
      rfl
    exact ⟨.durable (Stale.of_heldAfter stale h.past) stale lasts,
      (h.setFast stale lasts).alike alike⟩
  · intro left stale ranOut alike
    rw [h.fast] at stale
    have ranOut := h.ranOut ranOut
    have fast := h.fast.trans (heldAfter_cons_of_none ranOut.rowRole).symm
    exact ⟨.missing (Stale.of_heldAfter stale h.past) stale ranOut, (h.read fast).alike alike⟩
  · intro row e left stale here lasts unparsed alike
    rw [h.fast] at stale
    have unreadable : Unreadable setup.settings gone key reads w.now e :=
      ⟨stale, row, h.held here, lasts, unparsed⟩
    have fast := h.fast.trans (heldAfter_cons_of_none unreadable.rowRole).symm
    exact ⟨unreadable, (h.read fast).alike alike⟩

/-- The cloud says that the role is missing. -/
theorem ends_refreshRole_of_lingers (answers : w.AllAnswer setup)
    (h : Lingers setup.settings gone key reads w) :
    Ends setup w (refreshRole key)
      (fun answer left => answer = none ∧ Lingers setup.settings gone key reads left)
      fun _ _ => False := by
  apply ends_refreshRole
  · intro left _ alike
    exact ⟨rfl, h.alike alike⟩
  · intro d fast left shown
    have shown := shown (answers.undisturbed _)
    rw [h.absent] at shown
    cases shown
  · intro e left failed
    obtain ⟨d, shown, -⟩ := failed answers
    rw [h.absent] at shown
    cases shown

theorem ends_fetchRole_of_lingers (answers : w.AllAnswer setup)
    (h : Lingers setup.settings gone key reads w) :
    Ends setup w (fetchRole key false)
      (fun answer left => Echo setup.settings gone key reads w.now answer ∧
        Lingers setup.settings gone key (w.now :: reads) left)
      fun e left => Unreadable setup.settings gone key reads w.now e ∧
        Lingers setup.settings gone key (w.now :: reads) left := by
  rw [fetchRole_eq, if_neg Bool.false_ne_true, ends_bind]
  apply ((ends_readTiers_of_lingers answers.tiers h).and (ends_readTiers_answered answers)).mono
  · rintro answer left ⟨⟨echo, lingers⟩, answers⟩
    cases answer with
    | some role => exact ⟨echo, lingers⟩
    | none =>
      apply (ends_refreshRole_of_lingers answers lingers).mono
      · rintro _ after ⟨rfl, lingers⟩
        exact ⟨echo, lingers⟩
      · intro _ _ impossible
        exact impossible.elim
  · intro e left failed
    exact failed.1

/-! ## How a role is found missing -/

theorem ends_readTiers_missing (answers : w.TiersAnswer) :
    Ends setup w (readTiers key)
      (fun answer left => answer = none → Stale setup.settings (w.fast.get? key) w.now ∧
        RanOut w key w.now ∧ World.Alike w left)
      fun _ _ => True := by
  apply ends_readTiers answers
  · intro entry left _ _ _ nothing
    cases nothing
  · intro row role left _ _ _ _ _ nothing
    cases nothing
  · intro left stale ranOut alike _
    exact ⟨stale, ranOut, alike⟩
  · intro _ _ _ _ _ _ _ _
    trivial

theorem ends_refreshRole_missing (answers : w.AllAnswer setup) :
    Ends setup w (refreshRole key)
      (fun answer left => answer = none → w.cloud.role? key = none ∧ World.Alike w left)
      fun _ _ => True := by
  apply ends_refreshRole
  · intro left missing alike _
    exact ⟨missing (answers.undisturbed _), alike⟩
  · intro d fast left _ _ _ _ nothing
    cases nothing
  · intro _ _ _ _
    trivial

/-- Whoever is told that a role is missing has had the cloud asked, and the tiers before, unless
the cloud was to be asked at once. -/
theorem ends_fetchRole_missing (answers : w.AllAnswer setup) (force : Bool) :
    Ends setup w (fetchRole key force)
      (fun answer left => answer = none → left.cloud.role? key = none ∧
        (force = false →
          Stale setup.settings (left.fast.get? key) left.now ∧ RanOut left key left.now))
      fun _ _ => True := by
  cases force with
  | true =>
    apply (ends_refreshRole_missing answers).mono
    · intro answer left missing nothing
      obtain ⟨absent, alike⟩ := missing nothing
      rw [alike.cloud]
      refine ⟨absent, ?_⟩
      intro unforced
      cases unforced
    · intro _ _ _
      trivial
  | false =>
    rw [fetchRole_eq, if_neg Bool.false_ne_true, ends_bind]
    apply ((ends_readTiers_missing answers.tiers).and (ends_readTiers_answered answers)).mono
    · rintro answer read ⟨tiers, answers⟩
      cases answer with
      | some role =>
        intro nothing
        cases nothing
      | none =>
        obtain ⟨stale, ranOut, alike⟩ := tiers rfl
        apply (ends_refreshRole_missing answers).mono
        · intro answer left missing nothing
          obtain ⟨absent, alike'⟩ := missing nothing
          have alike := alike.trans alike'
          rw [alike'.cloud]
          refine ⟨absent, fun _ => ⟨?_, ?_⟩⟩
          · intro entry held
            rw [alike.fast] at held
            rw [alike.now]
            exact stale entry held
          · intro row held
            rw [alike.durable] at held
            rw [alike.now]
            exact ranOut row held
        · intro _ _ _
          trivial
    · intro _ _ _
      trivial

/-! ## What other calls leave -/

/-- What is done about other roles does not matter. -/
theorem overlooksTiers_lingers {other : RoleKey} (apart : other ≠ key) :
    OverlooksTiers (fun _ => false) other fun w =>
      Lingers setup.settings gone key reads w ∧ w.AllAnswer setup where
  books _ _ alike _ h := ⟨h.1.alike alike, h.2.rest alike.leftOver⟩
  quiet := ⟨rfl, rfl⟩
  fast w entry h := by
    refine ⟨h.1.of_same h.1.absent (Int.le_refl _) ?_ rfl, h.2⟩
    rw [Registry.get?_insert, if_neg (Ne.symm apart)]
  durable w row arn account h := by
    have same := DurableTier.find?_save_of_ne (t := w.durable) apart arn account
    exact ⟨h.1.of_same h.1.absent (Int.le_refl _) rfl same, h.2⟩

theorem keeps_lingers_fetchRole {other : RoleKey} {force : Bool}
    (unread : other = key → force = true) :
    Keeps setup (fun w => Lingers setup.settings gone key reads w ∧ w.AllAnswer setup)
      (fetchRole other force) := by
  by_cases same : other = key
  · obtain rfl := unread same
    subst same
    intro w h
    have calm : ((fetchRole other true).perform setup w).2.AllAnswer setup :=
      Keeps.fetchRole (overlooksTiers_answers other) rfl true w h.2
    refine ⟨Ends.left ?_, calm⟩
    exact (ends_refreshRole_of_lingers h.2 h.1).mono (fun _ _ h => h.2) fun _ _ h => h.elim
  · exact Keeps.fetchRole (overlooksTiers_lingers same) rfl force

end Service

open Service

theorem RoleCall.allAnswer_after {setup : Setup} {w : World} (c : RoleCall)
    (answers : w.AllAnswer setup) : (c.after setup w).AllAnswer setup :=
  c.keeps_after (fun _ _ alike _ h => h.rest alike.leftOver) (fun _ _ h => h) (fun _ _ h => h)
    answers

theorem World.AllAnswer.setClock {setup : Setup} {w : World} (answers : w.AllAnswer setup)
    (clock : Instant) : World.AllAnswer setup { w with clock := clock } :=
  answers

theorem RoleCall.absent_after {setup : Setup} {w : World} {key : RoleKey} (c : RoleCall)
    (absent : w.cloud.role? key = none) : (c.after setup w).cloud.role? key = none :=
  c.keeps_after (p := fun w => w.cloud.role? key = none)
    (fun _ _ alike _ h => (congrArg (·.role? key) alike.cloud).trans h) (fun _ _ h => h)
    (fun _ _ h => h) absent

theorem RoleCall.lingers_after {setup : Setup} {gone w : World} {key : RoleKey}
    {reads : List Timestamp} {c : RoleCall} (other : c ≠ .fetch key false)
    (answers : w.AllAnswer setup) (h : Lingers setup.settings gone key reads w) :
    Lingers setup.settings gone key reads (c.after setup w) := by
  have books : Overlooks fun w => Lingers setup.settings gone key reads w ∧ w.AllAnswer setup :=
    fun _ _ alike _ h => ⟨h.1.alike alike, h.2.rest alike.leftOver⟩
  cases c with
  | fetch asked force =>
    have unread : asked = key → force = true := by
      rintro rfl
      cases force with
      | true => rfl
      | false => exact absurd rfl other
    exact (keeps_lingers_fetchRole unread w ⟨h, answers⟩).1
  | refreshAccount account =>
    exact (Keeps.refreshAccount books
      (fun _ _ _ _ _ _ _ => keeps_lingers_fetchRole fun _ => rfl) ⟨h, answers⟩).1
  | purge =>
    apply Ends.left
    simp only [purgeExpired, ends_bind, ends_now]
    exact ends_purgeDurable (fun left alike => h.purge.alike alike)
      fun _ left _ alike => h.alike alike

/-! ## Runs -/

/-- The worlds that calls of the role cache reach after `gone`, while the cloud does not have the
role, with the times at which it was read from the tiers since then, latest first.  In between time
passes and anything else may change but what the tiers hold of the role, the cloud included. -/
inductive GoneRun (setup : Setup) (key : RoleKey) (gone : World) :
    List Timestamp → World → Prop where
  | start : GoneRun setup key gone [] gone
  | move {reads : List Timestamp} {w moved : World} (run : GoneRun setup key gone reads w)
    (fast : moved.fast.get? key = w.fast.get? key)
    (durable : moved.durable.find? key = w.durable.find? key)
    (absent : moved.cloud.role? key = none) (clock : w.clock.micros ≤ moved.clock.micros) :
    GoneRun setup key gone reads moved
  | read {reads : List Timestamp} {w : World} (run : GoneRun setup key gone reads w)
    (answers : w.AllAnswer setup) :
    GoneRun setup key gone (w.now :: reads) ((RoleCall.fetch key false).after setup w)
  | call {reads : List Timestamp} {w : World} (run : GoneRun setup key gone reads w)
    (answers : w.AllAnswer setup) {c : RoleCall} (other : c ≠ .fetch key false) :
    GoneRun setup key gone reads (c.after setup w)

namespace GoneRun

variable {setup : Setup} {before gone w : World} {key : RoleKey} {force : Bool}
  {reads : List Timestamp}

theorem lingers (run : GoneRun setup key gone reads w) (absent : gone.cloud.role? key = none) :
    Lingers setup.settings gone key reads w := by
  induction run with
  | start => exact .start absent
  | move _ fast durable absent clock ih =>
    exact ih.of_same absent (World.now_le_now clock) fast durable
  | read _ answers ih =>
    apply Ends.left
    exact (ends_fetchRole_of_lingers answers ih).mono (fun _ _ h => h.2) fun _ _ h => h.2
  | call _ answers other ih => exact RoleCall.lingers_after other answers ih

theorem setClock {clock : Instant} (run : GoneRun setup key gone reads w)
    (absent : w.cloud.role? key = none) (forward : w.clock.micros ≤ clock.micros) :
    GoneRun setup key gone reads { w with clock := clock } :=
  .move run rfl rfl absent forward

/-- Once a role was found missing and the cloud does not get it, whoever reads it later is told that
it is missing, too, unless a tier held a copy by then whose time is not over, or a reading put such a
copy into the fast tier again and it is fresh: that copy is what is told.  If the tiers had been asked
before the cloud, they held none. -/
theorem echo_after_missing (answers : before.AllAnswer setup)
    (missing : (fetchRole key force).perform setup before = (.ok none, gone))
    (run : GoneRun setup key gone reads w) (answersThen : w.AllAnswer setup) :
    Ends setup w (fetchRole key false)
      (fun answer _ => Echo setup.settings gone key reads w.now answer ∧
        (force = false → answer = none))
      fun e _ => Unreadable setup.settings gone key reads w.now e ∧ force = true := by
  obtain ⟨absent, nothing⟩ :=
    (ends_fetchRole_missing answers force).of_ok missing rfl
  have lingers := run.lingers absent
  apply (ends_fetchRole_of_lingers answersThen lingers).mono
  · rintro answer left ⟨echo, -⟩
    refine ⟨echo, ?_⟩
    intro unforced
    obtain ⟨stale, ranOut⟩ := nothing unforced
    exact echo.eq_none lingers.forward stale ranOut
  · rintro e left ⟨unreadable, -⟩
    refine ⟨unreadable, ?_⟩
    cases force with
    | true => rfl
    | false =>
      obtain ⟨-, ranOut⟩ := nothing rfl
      obtain ⟨row, held, lasts, -⟩ := unreadable.row
      exact (ranOut.later lingers.forward row held lasts).elim

/-! ## A role that comes back -/

open RoleRun (auditor auditorShown auditorRead)

def auditorDeleted : World :=
  { auditorRead with cloud := ⟨.empty⟩ }

def auditorMissed : World :=
  ((fetchRole auditor true).perform default auditorDeleted).2

/-- The lifetime of its row is almost over. -/
def auditorAsked : World :=
  { auditorMissed with clock := ⟨128400000000, by decide, by decide⟩ }

def auditorEchoed : World :=
  (RoleCall.fetch auditor false).after default auditorAsked

/-- Its row has run out, but what was served of the row is fresh. -/
def auditorOutlasting : World :=
  { auditorEchoed with clock := ⟨131400000000, by decide, by decide⟩ }

def auditorForgotten : World :=
  { auditorEchoed with clock := ⟨172800000000, by decide, by decide⟩ }

theorem auditor_missing :
    (fetchRole auditor true).perform default auditorDeleted = (.ok none, auditorMissed) :=
  perform_eq_of_toOption (by decide +kernel)

theorem auditorDeleted_answers : auditorDeleted.AllAnswer default := by
  have plan : auditorDeleted.plan.isEmpty = true := by decide +kernel
  exact World.allAnswer_of_unplanned (List.isEmpty_iff.1 plan) default

/-- It is found missing, and the next to ask is shown it, though the cloud has not got it. -/
theorem auditor_comes_back :
    auditorDeleted.AllAnswer default ∧
      (fetchRole auditor true).perform default auditorDeleted = (.ok none, auditorMissed) ∧
      GoneRun default auditor auditorMissed [] auditorMissed ∧
      auditorMissed.cloud.role? auditor = none ∧
      ∃ left, (fetchRole auditor false).perform default auditorMissed =
        (.ok (some auditorShown), left) := by
  have ⟨cloud, shown⟩ : auditorMissed.cloud.role? auditor = none ∧
      ((fetchRole auditor false).perform default auditorMissed).1.toOption =
        some (some auditorShown) := by
    decide +kernel
  exact ⟨auditorDeleted_answers, auditor_missing, .start, cloud, _, perform_eq_of_toOption shown⟩

theorem auditorAsked_answers : auditorAsked.AllAnswer default := by
  have plan : auditorAsked.plan.isEmpty = true := by decide +kernel
  exact World.allAnswer_of_unplanned (List.isEmpty_iff.1 plan) default

theorem auditorEchoed_answers : auditorEchoed.AllAnswer default :=
  (RoleCall.fetch auditor false).allAnswer_after auditorAsked_answers

theorem auditor_row :
    (auditorMissed.durable.find? auditor).map (fun row =>
      (row.policy, decide (auditorAsked.now < row.expiry),
        decide (auditorOutlasting.now < row.expiry))) =
      some (auditorShown.policyText, true, false) := by
  decide +kernel

/-- It comes back from its row while the row lasts, and then from the fast tier, into which that
reading put it again, though the row has run out.  After two days the tiers have forgotten it. -/
theorem auditor_stays_missing :
    (∃ left, (fetchRole auditor false).perform default auditorAsked =
      (.ok (some auditorShown), left)) ∧
    RanOut auditorMissed auditor auditorOutlasting.now ∧
    (∃ left, (fetchRole auditor false).perform default auditorOutlasting =
      (.ok (some auditorShown), left)) ∧
    ∃ left, (fetchRole auditor false).perform default auditorForgotten = (.ok none, left) := by
  obtain ⟨row, held, same⟩ := Option.map_eq_some_iff.1 auditor_row
  obtain ⟨policy, lasts, past⟩ : row.policy = auditorShown.policyText ∧
      auditorAsked.now < row.expiry ∧ ¬ auditorOutlasting.now < row.expiry := by
    simpa only [Prod.mk.injEq, decide_eq_true_eq, decide_eq_false_iff_not] using same
  have parsed : RoleDocument.ofPolicyText row.policy = .ok auditorShown := by
    rw [policy, RoleDocument.ofPolicyText_policyText (by decide) (by decide)]
  have ranOut : RanOut auditorMissed auditor auditorOutlasting.now := by
    intro other here
    rw [Option.some.inj (here.symm.trans held)]
    exact past
  -- The row can be read, so every reading of the run comes to what is left.
  have told {reads : List Timestamp} {w : World}
      (run : GoneRun default auditor auditorMissed reads w) (answers : w.AllAnswer default) :
      ∃ answer left, (fetchRole auditor false).perform default w = (.ok answer, left) ∧
        Echo default auditorMissed auditor reads w.now answer := by
    apply Ends.ok
    apply (echo_after_missing auditorDeleted_answers auditor_missing run answers).mono
    · rintro answer left ⟨echo, -⟩
      exact echo
    · rintro e left ⟨unreadable, -⟩
      obtain ⟨other, here, -, unparsed⟩ := unreadable.row
      cases held.symm.trans here
      rw [parsed] at unparsed
      cases unparsed
  have ⟨absent, clock, old⟩ :
      auditorAsked.cloud.role? auditor = none ∧ auditorMissed.clock.micros = 0 ∧
        (auditorMissed.fast.get? auditor).map (isFresh default auditorAsked.now) = some false := by
    decide +kernel
  have asked : GoneRun default auditor auditorMissed [] auditorAsked :=
    .setClock .start absent (by rw [clock]; decide)
  have stale : Stale default (heldAfter default auditorMissed auditor []) auditorAsked.now := by
    intro entry here
    rw [heldAfter] at here
    rw [here] at old
    exact Option.some.inj old
  have said : rowRole auditorMissed auditor auditorAsked.now = some auditorShown := by
    rw [rowRole_of_row held lasts, parsed]
    rfl
  have renewed : heldAfter default auditorMissed auditor [auditorAsked.now] =
      some ⟨auditorShown, auditorAsked.now⟩ := heldAfter_cons_of_row stale said
  have later {clock : Instant} (forward : auditorAsked.clock.micros ≤ clock.micros) :
      GoneRun default auditor auditorMissed [auditorAsked.now]
        { auditorEchoed with clock := clock } :=
    .setClock (asked.read auditorAsked_answers) (RoleCall.absent_after _ absent)
      (by rw [auditorEchoed, RoleCall.clock_after]; exact forward)
  refine ⟨?_, ranOut, ?_, ?_⟩
  · obtain ⟨answer, left, shown, echo⟩ := told asked auditorAsked_answers
    rw [echo.eq_rowRole stale, said] at shown
    exact ⟨left, shown⟩
  · obtain ⟨answer, left, shown, echo⟩ :=
      told (later (by decide)) (auditorEchoed_answers.setClock auditorOutlasting.clock)
    rw [echo.eq_of_held renewed (by decide)] at shown
    exact ⟨left, shown⟩
  · obtain ⟨answer, left, missed, echo⟩ :=
      told (later (by decide)) (auditorEchoed_answers.setClock auditorForgotten.clock)
    have spent : Stale default (heldAfter default auditorMissed auditor [auditorAsked.now])
        auditorForgotten.now := by
      intro entry here
      cases renewed.symm.trans here
      decide
    rw [echo.eq_rowRole spent, (ranOut.later (by decide)).rowRole] at missed
    exact ⟨left, missed⟩

end GoneRun

end AccessBroker
