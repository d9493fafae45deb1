import AccessBroker.Access.Request
import AccessBroker.Registry

/-! # The store of requests

Requests by their ids, in the order in which they came, and for each user the
ids of the requests that the user made.
-/

namespace AccessBroker

/-- The place in the order of expiry that a sweep has reached. -/
structure ExpiryCursor where
  expiresAt : Timestamp
  requestId : String
deriving DecidableEq

structure RequestStore where
  byId : Registry String Request
  byUser : Registry String (List String)
  /-- Every request is kept under its own id. -/
  ownIds : ∀ e ∈ byId.entries, e.1 = e.2.id

namespace RequestStore

def empty : RequestStore := ⟨.empty, .empty, by simp [Registry.empty]⟩

instance : Inhabited RequestStore := ⟨empty⟩

/-- All requests in the order in which they came. -/
def all (s : RequestStore) : List Request :=
  s.byId.values

def find? (s : RequestStore) (id : String) : Option Request :=
  s.byId.get? id

/-- Keeps a request under its id, in place of the one that was there. -/
def put (s : RequestStore) (r : Request) : RequestStore where
  byId := s.byId.insert r.id r
  byUser := s.byUser
  ownIds := fun e he => (Registry.mem_put he).elim (fun h => h ▸ rfl) (s.ownIds e)

/-- Whether a request is pending for a requester and the key of a target. -/
def isPendingFor (requester key : String) (r : Request) : Bool :=
  r.status == .pending && r.requester == requester && r.target.key == key

def findPending? (s : RequestStore) (requester key : String) : Option Request :=
  s.all.find? (isPendingFor requester key)

def alreadyPending (id key : String) : Error :=
  .conflict s!"access request '{id}' for '{key}' is already pending"

def missing (id : String) : Error :=
  .notFound s!"access request '{id}' does not exist"

/-- Adds a request with a new id, unless one is pending for the same requester and target. -/
def insert (s : RequestStore) (r : Request) : Except Error RequestStore :=
  if s.byId.contains r.id then
    .error (.conflict s!"access request '{r.id}' already exists")
  else
    match s.findPending? r.requester r.target.key with
    | some other => .error (alreadyPending other.id r.target.key)
    | none => .ok (s.put r)

def save (s : RequestStore) (r : Request) : Except Error RequestStore :=
  if s.byId.contains r.id then .ok (s.put r) else .error (missing r.id)

/-- The stored requests among some ids, in the order of the ids. -/
def findAll (s : RequestStore) (ids : List String) : List Request :=
  ids.filterMap s.find?

/-- Requests of one time are ordered by their ids. -/
def olderFirst (a b : Request) : Bool :=
  a.requestTime < b.requestTime || (a.requestTime == b.requestTime && a.id ≤ b.id)

/-- The oldest pending requests, at most `limit` of them. -/
def pending (s : RequestStore) (limit : Nat) : List Request :=
  ((s.all.filter (·.status == .pending)).mergeSort olderFirst).take limit

/-- When a request runs out; one that never does counts as time zero. -/
def expiry (r : Request) : Timestamp :=
  r.expiresAt.getD (.clamp 0)

/-- The order in which memberships run out. -/
def expiresFirst (a b : Request) : Bool :=
  expiry a < expiry b || (expiry a == expiry b && a.id ≤ b.id)

/-- Whether a request comes after a place in the order of expiry. -/
def isAfter (cursor : Option ExpiryCursor) (r : Request) : Bool :=
  match cursor with
  | none => true
  | some c => c.expiresAt < expiry r || (c.expiresAt == expiry r && c.requestId < r.id)

/-- The approved requests that have run out, from a place in the order of expiry on, at most
`limit` of them. -/
def due (s : RequestStore) (now : Timestamp) (after : Option ExpiryCursor) (limit : Nat) :
    List Request :=
  ((s.all.filter fun r => r.isPastExpiry now && isAfter after r).mergeSort expiresFirst).take limit

def idsOf (s : RequestStore) (user : String) : List String :=
  (s.byUser.get? user).getD []

/-- Notes that a user made a request. -/
def append (s : RequestStore) (user id : String) : RequestStore :=
  { s with byUser := s.byUser.insert user (s.idsOf user ++ [id]) }

theorem find?_put (s : RequestStore) (r : Request) (id : String) :
    (s.put r).find? id = if id = r.id then some r else s.find? id :=
  s.byId.get?_insert r.id id r

theorem put_put (s : RequestStore) {first second : Request} (h : first.id = second.id) :
    (s.put first).put second = s.put second := by
  simp only [put, h, Registry.insert_insert]

/-- A second request of one id hides the first. -/
theorem find?_put_hides {s t : RequestStore} {first second : Request} (same : second.id = first.id)
    (h : ∀ id, s.find? id = (t.put first).find? id) (id : String) :
    (s.put second).find? id = (t.put second).find? id := by
  by_cases here : id = second.id
  · rw [find?_put, find?_put, if_pos here, if_pos here]
  · rw [find?_put, find?_put, if_neg here, if_neg here, h, find?_put, if_neg (same ▸ here)]

theorem insert_eq_ok_iff {s stored : RequestStore} {r : Request} :
    s.insert r = .ok stored ↔
      s.find? r.id = none ∧ s.findPending? r.requester r.target.key = none ∧ stored = s.put r := by
  unfold insert Registry.contains
  cases found : s.find? r.id with
  | some other =>
    rw [find?] at found
    simp [found]
  | none =>
    rw [find?] at found
    cases s.findPending? r.requester r.target.key <;> simp [found, eq_comm]

theorem eq_put_of_save {s stored : RequestStore} {r : Request} (h : s.save r = .ok stored) :
    stored = s.put r := by
  unfold save at h
  split at h
  · exact (Except.ok.inj h).symm
  · cases h

theorem find?_eq_none_of_save {s : RequestStore} {r : Request} {e : Error}
    (h : s.save r = .error e) : s.find? r.id = none := by
  unfold save at h
  split at h
  · cases h
  · next absent => simpa [Registry.contains, find?] using absent

@[simp] theorem find?_append (s : RequestStore) (user id other : String) :
    (s.append user id).find? other = s.find? other := rfl

@[simp] theorem all_append (s : RequestStore) (user id : String) :
    (s.append user id).all = s.all := rfl

theorem find?_eq_some_iff {s : RequestStore} {id : String} {r : Request} :
    s.find? id = some r ↔ r ∈ s.all ∧ r.id = id := by
  rw [find?, Registry.get?_eq_some_iff, all, Registry.values, List.mem_map]
  constructor
  · exact fun h => ⟨⟨_, h, rfl⟩, (s.ownIds _ h).symm⟩
  · rintro ⟨⟨e, he, rfl⟩, rfl⟩
    exact s.ownIds e he ▸ he

theorem mem_all_iff {s : RequestStore} {r : Request} : r ∈ s.all ↔ s.find? r.id = some r := by
  simp [find?_eq_some_iff]

theorem mem_all_congr {s t : RequestStore} (same : ∀ id, t.find? id = s.find? id) {r : Request} :
    r ∈ t.all ↔ r ∈ s.all := by
  rw [mem_all_iff, mem_all_iff, same]

/-- A request is put in the place of the one that has its id. -/
theorem mem_all_put {s : RequestStore} {r x : Request} :
    x ∈ (s.put r).all ↔ x = r ∨ x.id ≠ r.id ∧ x ∈ s.all := by
  rw [mem_all_iff, mem_all_iff, find?_put]
  by_cases same : x.id = r.id
  · rw [if_pos same, Option.some.injEq]
    exact ⟨fun eq => .inl eq.symm, fun h => (h.resolve_right fun other => other.1 same).symm⟩
  · rw [if_neg same]
    refine ⟨fun here => .inr ⟨same, here⟩, fun h => ?_⟩
    rcases h with rfl | ⟨-, here⟩
    · exact absurd rfl same
    · exact here

/-- Two stored requests with one id are the same. -/
theorem eq_of_id_eq {s : RequestStore} {a b : Request} (ha : a ∈ s.all) (hb : b ∈ s.all)
    (h : a.id = b.id) : a = b := by
  have hs := mem_all_iff.1 ha
  rw [h, mem_all_iff.1 hb] at hs
  exact (Option.some.inj hs).symm

theorem mem_of_mem_due {s : RequestStore} {now : Timestamp} {after : Option ExpiryCursor}
    {limit : Nat} {r : Request} (h : r ∈ s.due now after limit) :
    r ∈ s.all ∧ r.isPastExpiry now = true := by
  have listed := List.mem_of_mem_take h
  simp only [List.mem_mergeSort, List.mem_filter, Bool.and_eq_true] at listed
  exact ⟨listed.1, listed.2.1⟩

end RequestStore

end AccessBroker
