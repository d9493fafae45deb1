import AccessBroker.Proofs.ConfigWrites
import AccessBroker.Proofs.Roles
import AccessBroker.Proofs.StoredEntries

/-! # Fast tiers on a server and in memory

Roles, the configuration and eligible roles are kept on one server or in memory.
As long as nothing runs out, the server has in print what memory would have, each
entry with the seconds that it was put for, and whoever calls the tiers is told
the same by both.
-/

namespace AccessBroker

open World (Alike)
open Cache (Server Session Slot)

/-! ## Conversations with a server -/

namespace Cache.Session

variable {α β : Type} {s : Server}

theorem perform_lift (x : Except Error α) : (lift x).perform s = (x, s) := rfl

theorem perform_bind (x : Session α) (f : α → Session β) :
    (x >>= f).perform s =
      match x.perform s with
      | (.ok a, left) => (f a).perform left
      | (.error e, left) => (.error e, left) := by
  have runs : (x >>= f).perform s =
      match x.perform s with
      | (result, left) => ExceptT.bindCont f result left := rfl
  rw [runs]
  cases x.perform s with
  | mk result left => cases result <;> rfl

theorem perform_bind_of_ok {x : Session α} {a : α} {left : Server}
    (run : x.perform s = (.ok a, left)) (f : α → Session β) :
    (x >>= f).perform s = (f a).perform left := by
  rw [perform_bind, run]

/-! A server that serves does what it is told. -/

theorem perform_command (serves : s.conduct = .serves) (failure : String)
    (act : Table Cache.Stored → α × Table Cache.Stored) :
    (command failure act).perform s =
      (.ok (act s.entries).1, { s with entries := (act s.entries).2 }) := by
  obtain ⟨conduct, entries⟩ := s
  obtain rfl : conduct = .serves := serves
  rfl

theorem perform_get? (serves : s.conduct = .serves) (failure key : String) :
    (get? failure key).perform s = (.ok ((s.entries.get? key).map (·.value)), s) :=
  perform_command serves failure _

theorem perform_put (serves : s.conduct = .serves) (failure key value : String)
    (lifetime : Option Nat) :
    (put failure key value lifetime).perform s =
      (.ok (), { s with entries := s.entries.insert key ⟨value, lifetime⟩ }) :=
  perform_command serves failure _

theorem perform_delete (serves : s.conduct = .serves) (failure : String) (keys : List String) :
    (delete failure keys).perform s =
      (.ok (), { s with entries := keys.foldl Table.erase s.entries }) :=
  perform_command serves failure _

end Cache.Session

namespace Cache

variable {s : Server}

/-! What is put stands in its slot, unless it is to be kept for no time. -/

theorem perform_putRole (space : String) (serves : s.conduct = .serves) (key : RoleKey)
    (entry : FastEntry) {freshness : Nat} (lasts : freshness ≠ 0) :
    (putRole space key entry freshness).perform s = (.ok (), { s with
      entries := s.entries.insert (Slot.text space (.role key))
        ⟨entry.toTree.text, some freshness⟩ }) := by
  unfold putRole
  rw [if_pos lasts]
  exact Session.perform_put serves ..

theorem perform_putConfig (space : String) (serves : s.conduct = .serves) (v : ConfigVersion) :
    (putConfig space v).perform s = (.ok (), { s with
      entries := s.entries.insert (Slot.text space .config) ⟨v.toTree.text, none⟩ }) :=
  Session.perform_put serves ..

theorem perform_putEligible (space : String) (serves : s.conduct = .serves) (user : String)
    (console : Bool) (roles : List RoleMapping) {lifetime : Nat} (lasts : lifetime ≠ 0) :
    (putEligible space user console roles lifetime).perform s = (.ok (), { s with
      entries := s.entries.insert (Slot.text space (.eligible (Text.lower user) console))
        ⟨RoleMapping.listText roles, some lifetime⟩ }) := by
  unfold putEligible
  rw [if_pos lasts]
  exact Session.perform_put serves ..

theorem perform_putEligible_zero (space user : String) (console : Bool) (roles : List RoleMapping) :
    (putEligible space user console roles 0).perform s = (.ok (), s) := rfl

/-- Both kinds of sessions are dropped for a user. -/
theorem perform_invalidateUser (space : String) (serves : s.conduct = .serves) (user : String) :
    (invalidateUser space user).perform s = (.ok (), { s with
      entries := ([Slot.eligible (Text.lower user) false, .eligible (Text.lower user) true].map
        (Slot.text space)).foldl Table.erase s.entries }) :=
  Session.perform_delete serves ..

end Cache

/-! ## Calls to the tiers -/

inductive TierCall where
  | getRole (key : RoleKey)
  | putRole (key : RoleKey) (entry : FastEntry) (freshness : Nat)
  | getConfig
  | putConfig (v : ConfigVersion)
  | getEligible (user : String) (console : Bool)
  | putEligible (user : String) (console : Bool) (roles : List RoleMapping) (lifetime : Nat)
  | invalidateUser (user : String)

inductive TierAnswer where
  | role (found : Option FastEntry)
  | config (found : Option ConfigVersion)
  | eligible (found : Option (List RoleMapping))
  | done

namespace TierCall

/-- The call to tiers that share a server and its space of names. -/
def onServer (space : String) : TierCall → Session TierAnswer
  | getRole key => return .role (← Cache.getRole? space key)
  | putRole key entry freshness => do
    Cache.putRole space key entry freshness
    return .done
  | getConfig => return .config (← Cache.getConfig? space)
  | putConfig v => do
    Cache.putConfig space v
    return .done
  | getEligible user console => return .eligible (← Cache.getEligible? space user console)
  | putEligible user console roles lifetime => do
    Cache.putEligible space user console roles lifetime
    return .done
  | invalidateUser user => do
    Cache.invalidateUser space user
    return .done

def inMemory : TierCall → Service TierAnswer
  | getRole key => return .role (← Service.getFast? key)
  | putRole key entry freshness => do
    Service.putFast key entry freshness
    return .done
  | getConfig => return .config (← Service.getConfigCopy?)
  | putConfig v => do
    Service.putConfigCopy v
    return .done
  | getEligible user console => return .eligible (← Service.getEligible? user console)
  | putEligible user console roles lifetime => do
    Service.putEligible user console roles lifetime
    return .done
  | invalidateUser user => do
    Service.invalidateEligible user
    return .done

/-- What is put reads back from its printed form, and a role is put to stay fresh for some time. -/
def Fits : TierCall → Prop
  | putRole _ entry freshness => 0 < freshness ∧ entry.toTree.ReadsBack
  | putConfig v => v.toTree.ReadsBack
  | _ => True

def told (w : World) : TierCall → TierAnswer
  | getRole key => .role (w.fast.get? key)
  | getConfig => .config w.configCopy
  | getEligible user console => .eligible (w.eligible.get? user console)
  | putRole .. | putConfig _ | putEligible .. | invalidateUser _ => .done

def changed (w : World) : TierCall → World
  | putRole key entry _ => { w with fast := w.fast.insert key entry }
  | putConfig v => { w with configCopy := some v }
  | putEligible user console roles lifetime =>
    { w with eligible := w.eligible.put user console roles lifetime }
  | invalidateUser user => { w with eligible := w.eligible.invalidate user }
  | getRole _ | getConfig | getEligible .. => w

/-- How long entries are kept after the call, if they were kept for `life` before.  What is put is
kept for the seconds that are given with it, the configuration for good. -/
def lifetimes (life : Slot → Option Nat) : TierCall → Slot → Option Nat
  | putRole key _ freshness => fun slot => if slot = .role key then some freshness else life slot
  | putConfig _ => fun slot => if slot = .config then none else life slot
  | putEligible user console _ lifetime => fun slot =>
    if lifetime ≠ 0 ∧ slot = .eligible (Text.lower user) console then some lifetime else life slot
  | getRole _ | getConfig | getEligible .. | invalidateUser _ => life

def lastLifetime (calls : List TierCall) : Slot → Option Nat :=
  calls.foldl lifetimes fun _ => none

def onServerInTurn (space : String) (s : Server) :
    List TierCall → List (Except Error TierAnswer) × Server
  | [] => ([], s)
  | c :: rest =>
    let (answer, s) := (c.onServer space).perform s
    let (answers, s) := onServerInTurn space s rest
    (answer :: answers, s)

def inMemoryInTurn (setup : Setup) (w : World) :
    List TierCall → List (Except Error TierAnswer) × World
  | [] => ([], w)
  | c :: rest =>
    let (answer, w) := c.inMemory.perform setup w
    let (answers, w) := inMemoryInTurn setup w rest
    (answer :: answers, w)

end TierCall

/-! ## Memory -/

namespace TierCall

variable {setup : Setup} {w : World}

/-- In memory a call is told what the tiers have, and what it puts is there afterwards. -/
theorem perform_inMemory (setup : Setup) (calm : ∀ kind, w.Undisturbed kind) (c : TierCall) :
    ∃ left, c.inMemory.perform setup w = (.ok (c.told w), left) ∧ Alike (c.changed w) left := by
  have ends : Service.Ends setup w c.inMemory
      (fun answer left => answer = c.told w ∧ Alike (c.changed w) left) fun _ _ => False := by
    have never (kind : CallKind) (e : Error) (left : World) (fails : w.effect kind = .fail e)
        (_ : Alike w left) : False := (calm kind).not_fail fails
    cases c with
    | getRole key =>
      exact Service.ends_bind.2 (Service.ends_getFast (fun _ alike => ⟨rfl, alike⟩) (never _))
    | putRole key entry freshness =>
      exact Service.ends_bind.2 (Service.ends_putFast (fun _ alike => ⟨rfl, alike⟩) (never _))
    | getConfig =>
      exact Service.ends_bind.2 (Service.ends_getConfigCopy (fun _ alike => ⟨rfl, alike⟩) (never _))
    | putConfig v =>
      exact Service.ends_bind.2 (Service.ends_putConfigCopy (fun _ alike => ⟨rfl, alike⟩) (never _))
    | getEligible user console =>
      exact Service.ends_bind.2 (Service.ends_getEligible (fun _ alike => ⟨rfl, alike⟩) (never _))
    | putEligible user console roles lifetime =>
      exact Service.ends_bind.2 (Service.ends_putEligible (fun _ alike => ⟨rfl, alike⟩) (never _))
    | invalidateUser user =>
      exact Service.ends_bind.2
        (Service.ends_invalidateEligible (fun _ alike => ⟨rfl, alike⟩) (never _))
  obtain ⟨answer, left, run, rfl, alike⟩ := ends.ok
  exact ⟨left, run, alike⟩

end TierCall

/-! ## What a server has of a world -/

namespace World

variable {w left : World}

def printed? (w : World) : Slot → Option String
  | .role key => (w.fast.get? key).map (·.toTree.text)
  | .config => w.configCopy.map (·.toTree.text)
  | .eligible name console => (w.eligible.entries.get? (name, console)).map RoleMapping.listText

theorem printed?_of_alike (alike : Alike w left) : left.printed? = w.printed? := by
  funext slot
  cases slot with
  | role key => simp only [printed?, alike.fast]
  | config => simp only [printed?, alike.configCopy]
  | eligible name console => simp only [printed?, alike.eligible]

/-! Each change of a tier is one of single entries. -/

theorem printed?_putRole (key : RoleKey) (entry : FastEntry) (slot : Slot) :
    { w with fast := w.fast.insert key entry }.printed? slot =
      if slot = .role key then some entry.toTree.text else w.printed? slot := by
  cases slot with
  | role other =>
    simp only [printed?, Registry.get?_insert, Slot.role.injEq]
    split <;> rfl
  | config => rfl
  | eligible => rfl

theorem printed?_putConfig (v : ConfigVersion) (slot : Slot) :
    { w with configCopy := some v }.printed? slot =
      if slot = .config then some v.toTree.text else w.printed? slot := by
  cases slot <;> rfl

theorem printed?_putEligible (user : String) (console : Bool) (roles : List RoleMapping)
    {lifetime : Nat} (lasts : lifetime ≠ 0) (slot : Slot) :
    { w with eligible := w.eligible.put user console roles lifetime }.printed? slot =
      if slot = .eligible (Text.lower user) console then some (RoleMapping.listText roles)
      else w.printed? slot := by
  cases slot with
  | role => rfl
  | config => rfl
  | eligible name console' =>
    simp only [printed?, EligibleCache.put, if_neg lasts, Registry.get?_insert, Prod.mk.injEq,
      Slot.eligible.injEq]
    split <;> rfl

theorem printed?_invalidate (user : String) (slot : Slot) :
    { w with eligible := w.eligible.invalidate user }.printed? slot =
      if slot ∈ [.eligible (Text.lower user) false, .eligible (Text.lower user) true] then none
      else w.printed? slot := by
  cases slot with
  | role => simp [printed?]
  | config => simp [printed?]
  | eligible name console =>
    have kept := Registry.get?_filter_keys w.eligible.entries (fun e => e.1 != Text.lower user)
      (name, console)
    simp only [printed?, EligibleCache.invalidate, kept]
    by_cases same : name = Text.lower user <;> cases console <;> simp [same]

structure TiersReadBack (w : World) : Prop where
  role : ∀ key entry, w.fast.get? key = some entry → entry.toTree.ReadsBack
  config : ∀ v, w.configCopy = some v → v.toTree.ReadsBack

theorem TiersReadBack.of_alike (h : w.TiersReadBack) (alike : Alike w left) :
    left.TiersReadBack where
  role := by
    rw [alike.fast]
    exact h.role
  config := by
    rw [alike.configCopy]
    exact h.config

end World

theorem TierCall.readBack_changed {w : World} (h : w.TiersReadBack) {c : TierCall} (fits : c.Fits) :
    (c.changed w).TiersReadBack := by
  cases c with
  | putRole key entry freshness =>
    refine ⟨fun other found here => ?_, h.config⟩
    have here : (w.fast.insert key entry).get? other = some found := here
    rw [Registry.get?_insert] at here
    by_cases same : other = key
    · rw [if_pos same] at here
      cases here
      exact fits.2
    · rw [if_neg same] at here
      exact h.role other found here
  | putConfig v =>
    refine ⟨h.role, fun found here => ?_⟩
    cases here
    exact fits
  | getRole | getConfig | getEligible => exact h
  | putEligible | invalidateUser => exact ⟨h.role, h.config⟩

/-! ## The server -/

/-- A server that has, under a space of names, what is in memory, each entry for its lifetime. -/
structure Mirrors (space : String) (w : World) (life : Slot → Option Nat) (s : Server) : Prop where
  serves : s.conduct = .serves
  entries : ∀ slot : Slot, s.entries.get? (slot.text space) =
    (w.printed? slot).map fun value => ⟨value, life slot⟩

namespace Mirrors

variable {space : String} {w after : World} {life next : Slot → Option Nat} {s : Server}

theorem of_alike (h : Mirrors space w life s) (alike : Alike w after) :
    Mirrors space after life s where
  serves := h.serves
  entries := by
    rw [World.printed?_of_alike alike]
    exact h.entries

/-- One value is put. -/
theorem put {slot : Slot} {value : String} {lifetime : Option Nat} (h : Mirrors space w life s)
    (now : ∀ other, after.printed? other = if other = slot then some value else w.printed? other)
    (lasts : ∀ other, next other = if other = slot then lifetime else life other) :
    Mirrors space after next
      { s with entries := s.entries.insert (slot.text space) ⟨value, lifetime⟩ } where
  serves := h.serves
  entries other := by
    rw [Table.get?_insert, now, lasts]
    by_cases same : other = slot
    · rw [same, if_pos rfl, if_pos rfl, if_pos rfl]
      rfl
    · rw [if_neg fun texts => same (Slot.text_inj.1 texts), if_neg same, if_neg same, h.entries]

/-- Some values are deleted. -/
theorem delete {slots : List Slot} (h : Mirrors space w life s)
    (now : ∀ slot, after.printed? slot = if slot ∈ slots then none else w.printed? slot) :
    Mirrors space after life
      { s with entries := (slots.map (Slot.text space)).foldl Table.erase s.entries } where
  serves := h.serves
  entries slot := by
    have listed : slot.text space ∈ slots.map (Slot.text space) ↔ slot ∈ slots := by
      simp [Slot.text_inj]
    rw [Table.get?_foldl_erase, now]
    by_cases here : slot ∈ slots
    · rw [if_pos (listed.2 here), if_pos here]
      rfl
    · rw [if_neg fun texts => here (listed.1 texts), if_neg here, h.entries]

/-- What is looked up is what memory has. -/
theorem perform_lookUp {α : Type} {reader : Json.Reader α} {print : α → String} {found : Option α}
    (h : Mirrors space w life s) (slot : Slot) (here : w.printed? slot = found.map print)
    (reads : ∀ a, found = some a → Json.readText reader (print a) = .ok a)
    (failure invalid : String) :
    (do
      let text ← Session.get? failure (slot.text space)
      Session.lift (Cache.decode reader invalid text) : Session (Option α)).perform s =
      (.ok found, s) := by
  have value : (s.entries.get? (slot.text space)).map (·.value) = found.map print := by
    rw [h.entries, here, Option.map_map, Option.map_map]
    rfl
  rw [Session.perform_bind, Session.perform_get? h.serves, value]
  dsimp only
  rw [Session.perform_lift, Cache.decode_printed invalid reads]

theorem perform_getRole (h : Mirrors space w life s) (readable : w.TiersReadBack) (key : RoleKey) :
    (Cache.getRole? space key).perform s = (.ok (w.fast.get? key), s) :=
  h.perform_lookUp (.role key) rfl
    (fun e here => Cache.readText_role (readable.role key e here)) _ _

theorem perform_getConfig (h : Mirrors space w life s) (readable : w.TiersReadBack) :
    (Cache.getConfig? space).perform s = (.ok w.configCopy, s) :=
  h.perform_lookUp .config rfl (fun v here => Cache.readText_config (readable.config v here)) _ _

theorem perform_getEligible (h : Mirrors space w life s) (user : String) (console : Bool) :
    (Cache.getEligible? space user console).perform s = (.ok (w.eligible.get? user console), s) :=
  h.perform_lookUp (.eligible (Text.lower user) console) rfl
    (fun roles _ => Cache.readText_eligible roles) _ _

/-- The server answers a call as memory does, and has afterwards what memory then has. -/
theorem perform_onServer (h : Mirrors space w life s) (readable : w.TiersReadBack) {c : TierCall}
    (fits : c.Fits) :
    ∃ left, (c.onServer space).perform s = (.ok (c.told w), left) ∧
      Mirrors space (c.changed w) (c.lifetimes life) left := by
  cases c with
  | getRole key =>
    have found := h.perform_getRole readable key
    exact ⟨s, Session.perform_bind_of_ok found _, h⟩
  | getConfig =>
    have found := h.perform_getConfig readable
    exact ⟨s, Session.perform_bind_of_ok found _, h⟩
  | getEligible user console =>
    have found := h.perform_getEligible user console
    exact ⟨s, Session.perform_bind_of_ok found _, h⟩
  | putRole key entry freshness =>
    have run := Cache.perform_putRole space h.serves key entry (Nat.ne_of_gt fits.1)
    exact ⟨_, Session.perform_bind_of_ok run _,
      h.put (World.printed?_putRole key entry) fun _ => rfl⟩
  | putConfig v =>
    have run := Cache.perform_putConfig space h.serves v
    exact ⟨_, Session.perform_bind_of_ok run _, h.put (World.printed?_putConfig v) fun _ => rfl⟩
  | putEligible user console roles lifetime =>
    -- For no time neither the server nor memory keeps anything.
    by_cases none : lifetime = 0
    · subst none
      have run := Cache.perform_putEligible_zero (s := s) space user console roles
      refine ⟨s, Session.perform_bind_of_ok run _, ?_⟩
      simpa [TierCall.changed, TierCall.lifetimes, EligibleCache.put] using h
    · have run := Cache.perform_putEligible space h.serves user console roles none
      have lasts (slot : Slot) :
          TierCall.lifetimes life (.putEligible user console roles lifetime) slot =
            if slot = .eligible (Text.lower user) console then some lifetime else life slot := by
        simp [TierCall.lifetimes, none]
      exact ⟨_, Session.perform_bind_of_ok run _,
        h.put (World.printed?_putEligible user console roles none) lasts⟩
  | invalidateUser user =>
    have run := Cache.perform_invalidateUser space h.serves user
    exact ⟨_, Session.perform_bind_of_ok run _, h.delete (World.printed?_invalidate user)⟩

end Mirrors

/-! ## One call after another -/

namespace TierCall

variable {space : String} {w : World} {life : Slot → Option Nat} {s : Server}

theorem plan_changed (c : TierCall) : (c.changed w).plan = w.plan := by
  cases c <;> rfl

/-- From a server that has what is in memory, every answer of the one is that of the other. -/
theorem answers_of_mirrors (setup : Setup) (calm : ∀ kind, w.Undisturbed kind)
    (readable : w.TiersReadBack) (mirrors : Mirrors space w life s) {calls : List TierCall}
    (fit : ∀ c ∈ calls, c.Fits) :
    ∃ (answers : List TierAnswer) (kept : Server) (left : World),
      onServerInTurn space s calls = (answers.map .ok, kept) ∧
      inMemoryInTurn setup w calls = (answers.map .ok, left) ∧
      Mirrors space left (calls.foldl lifetimes life) kept := by
  -- Each call moves the server and the world on together, so both are left open.
  induction calls generalizing w life s with
  | nil => exact ⟨[], s, w, rfl, rfl, mirrors⟩
  | cons c rest ih =>
    have fits : c.Fits := fit c (List.mem_cons_self ..)
    obtain ⟨kept, served, same⟩ := mirrors.perform_onServer readable fits
    obtain ⟨left, remembered, alike⟩ := c.perform_inMemory setup calm
    have leftOver : LeftOver left.plan w.plan := by
      rw [← plan_changed (w := w) c]
      exact alike.leftOver
    have calm' (kind : CallKind) : left.Undisturbed kind := (calm kind).rest leftOver
    obtain ⟨answers, kept', left', onServer, inMemory, mirrors'⟩ :=
      ih calm' ((readBack_changed readable fits).of_alike alike) (same.of_alike alike)
        fun d hd => fit d (List.mem_cons_of_mem _ hd)
    refine ⟨c.told w :: answers, kept', left', ?_, ?_, mirrors'⟩
    · simp only [onServerInTurn, served, onServer, List.map_cons]
    · simp only [inMemoryInTurn, remembered, inMemory, List.map_cons]

end TierCall

structure World.TiersEmpty (w : World) : Prop where
  fast : w.fast = .empty
  configCopy : w.configCopy = none
  eligible : w.eligible = .empty

/-- A server that serves and has nothing in a space of names. -/
structure Cache.Server.Unused (s : Server) (space : String) : Prop where
  serves : s.conduct = .serves
  absent : ∀ slot : Slot, s.entries.get? (slot.text space) = none

theorem World.TiersEmpty.readBack {w : World} (empty : w.TiersEmpty) : w.TiersReadBack where
  role key entry here := by
    rw [empty.fast] at here
    cases here
  config v here := by
    rw [empty.configCopy] at here
    cases here

theorem Cache.Server.Unused.mirrors {space : String} {w : World} {s : Server}
    (unused : s.Unused space) (empty : w.TiersEmpty) (life : Slot → Option Nat) :
    Mirrors space w life s where
  serves := unused.serves
  entries slot := by
    rw [unused.absent]
    cases slot with
    | role key =>
      rw [World.printed?, empty.fast]
      rfl
    | config =>
      rw [World.printed?, empty.configCopy]
      rfl
    | eligible name console =>
      rw [World.printed?, empty.eligible]
      rfl

/-- Tiers that share a server, under any space of names in which it has nothing yet, answer every
sequence of calls as empty tiers in memory do, and no call fails.  The server then has just what is
in memory, and is to keep each entry for the seconds with which it was last put. -/
theorem TierCall.answers_agree (space : String) (setup : Setup) {w : World} {s : Server}
    (calm : ∀ kind, w.Undisturbed kind) (empty : w.TiersEmpty) (unused : s.Unused space)
    (calls : List TierCall) (fit : ∀ c ∈ calls, c.Fits) :
    ∃ (answers : List TierAnswer) (kept : Server) (left : World),
      onServerInTurn space s calls = (answers.map .ok, kept) ∧
      inMemoryInTurn setup w calls = (answers.map .ok, left) ∧
      ∀ slot : Slot, kept.entries.get? (slot.text space) =
        (left.printed? slot).map fun value => ⟨value, lastLifetime calls slot⟩ := by
  obtain ⟨answers, kept, left, onServer, inMemory, mirrors⟩ :=
    answers_of_mirrors setup calm empty.readBack (unused.mirrors empty fun _ => none) fit
  exact ⟨answers, kept, left, onServer, inMemory, mirrors.entries⟩

def TierCall.appEntry : FastEntry :=
  ⟨⟨Target.appKey.arn, Target.appKey.account, "app", "AROA1", .object [], .empty, [], .empty, none,
    default⟩, default⟩

/-- Roles of Alice are kept, asked for under her name in capital letters, and dropped, while a role
and the configuration are kept on. -/
def TierCall.aliceAsks : List TierCall :=
  [putEligible "alice" false [⟨Target.appKey.arn, false⟩] 300, putRole Target.appKey appEntry 60,
    putConfig (.written .empty "root" default), getEligible "ALICE" false, invalidateUser "Alice",
    getEligible "alice" false, getRole Target.appKey, getConfig]

theorem TierCall.alice_forgotten :
    (onServerInTurn "broker" .empty aliceAsks).1 = [.ok .done, .ok .done, .ok .done,
      .ok (.eligible (some [⟨Target.appKey.arn, false⟩])), .ok .done, .ok (.eligible none),
      .ok (.role (some appEntry)), .ok (.config (some (.written .empty "root" default)))] := by
  have role : appEntry.toTree.ReadsBack := ⟨by decide, by decide⟩
  have config : (ConfigVersion.written .empty "root" default).toTree.ReadsBack :=
    ⟨rfl, by decide⟩
  have fit : ∀ c ∈ aliceAsks, c.Fits := by
    simp only [aliceAsks, List.forall_mem_cons]
    exact ⟨trivial, ⟨by decide, role⟩, config, trivial, trivial, trivial, trivial, trivial,
      List.forall_mem_nil _⟩
  obtain ⟨answers, kept, left, onServer, inMemory, -⟩ :=
    answers_agree "broker" default (w := default) (s := .empty)
      (fun kind => World.undisturbed_of_unplanned rfl kind) ⟨rfl, rfl, rfl⟩ ⟨rfl, fun _ => rfl⟩
      aliceAsks fit
  have remembered : (inMemoryInTurn default default aliceAsks).1 = answers.map .ok := by
    rw [inMemory]
  rw [onServer, ← remembered]
  rfl

end AccessBroker
