import AccessBroker.Proofs.Outcomes
import AccessBroker.Proofs.WellFormedRequests

/-! # What is noted of a policy before it is changed

Approvals are the only steps that note anything, and what they note is an
object.  So a stored request either notes nothing or has something to show.
-/

namespace AccessBroker

/-- What the request notes of a policy, if anything, is an object. -/
def Request.NotesObject (r : Request) : Prop :=
  ∀ noted, r.snapshot = some noted → noted.isObject = true

def RequestStore.NotesObjects (s : RequestStore) : Prop :=
  ∀ r ∈ s.all, r.NotesObject

namespace RequestStore

variable {s stored : RequestStore} {r : Request}

theorem NotesObjects.put (h : s.NotesObjects) (noted : r.NotesObject) : (s.put r).NotesObjects := by
  intro x hx
  rw [mem_all_put] at hx
  cases hx with
  | inl same => rw [same]; exact noted
  | inr other => exact h x other.2

theorem NotesObjects.congr (h : s.NotesObjects) (same : ∀ id, stored.find? id = s.find? id) :
    stored.NotesObjects := by
  intro x hx
  exact h x ((mem_all_congr same).1 hx)

end RequestStore

namespace Service

open World (Alike)

variable {setup : Setup} {w left : World} {r : Request}

theorem Notes.isObject {change : PolicyChange} {snapshot : Json} (h : Notes change snapshot) :
    snapshot.isObject = true := by
  obtain ⟨role, same⟩ := h
  rw [same]
  rfl

/-- What is noted before a change is an object, whatever was noted before. -/
theorem Notes.notesObject {change : PolicyChange} {snapshot : Json} (h : Notes change snapshot)
    (r : Request) : ({ r with snapshot := some snapshot } : Request).NotesObject := by
  intro noted same
  cases same
  exact h.isObject

theorem newRequest_notesObject {id : String} {who : Identity} {s : Submission} {now : Timestamp} :
    (newRequest id who s now).NotesObject := by
  intro noted same
  cases same

theorem Approved.notesObjects {actor : String} {comments : Option String} {answer : Request}
    (done : Approved setup w r actor comments answer left) (here : r.NotesObject)
    (h : w.requests.NotesObjects) : left.requests.NotesObjects := by
  cases done with
  | joined _ _ _ alike =>
    rw [alike.requests]
    exact h.put here
  | applied _ _ alike _ notes =>
    rw [alike.requests]
    exact h.put (notes.notesObject r)

theorem Failed.notesObjects (failed : Failed setup w r left) (h : w.requests.NotesObjects) :
    left.requests.NotesObjects := by
  cases failed with
  | refused alike => rw [alike.requests]; exact h
  | unsaved _ unchanged => rw [unchanged]; exact h
  | unnoted _ alike => rw [alike.requests]; exact h
  | prepared _ alike notes =>
    rw [alike.requests]
    exact h.put (notes.notesObject r)

theorem Reviewed.notesObjects {who : Identity} {v : Verdict} {answer : Request}
    (done : Reviewed setup w who r v answer left) (here : r.NotesObject)
    (h : w.requests.NotesObjects) : left.requests.NotesObjects := by
  cases done with
  | recorded _ _ alike =>
    rw [alike.requests]
    exact h.put here
  | approved _ done => exact done.notesObjects here h
  | removed _ _ _ alike =>
    rw [alike.requests]
    exact h.put here

abbrev NotesObjects {α : Type} (setup : Setup) (w : World) (service : Service α) : Prop :=
  Ends setup w service (fun _ left => left.requests.NotesObjects)
    fun _ left => left.requests.NotesObjects

theorem notesObjects_updateStatus (h : w.requests.NotesObjects) (who : Identity) (id : String)
    (v : Verdict) : NotesObjects setup w (updateStatus who id v) := by
  have still {mid : World} (alike : Alike w mid) : mid.requests.NotesObjects := by
    rw [alike.requests]
    exact h
  apply ends_updateStatus
  · intro r mid answer left after _ alike stored done alike'
    have here := still alike r (RequestStore.find?_eq_some_iff.1 stored).1
    rw [alike'.requests]
    exact done.notesObjects here (still alike)
  · intro e r mid left alike _ failed
    exact failed.notesObjects (still alike)
  · intro e left alike
    exact still alike

theorem notesObjects_submit (h : w.requests.NotesObjects) (who : Identity) (s : Submission) :
    NotesObjects setup w (submit who s) := by
  apply ends_submit
  · intro e drawn left _ alike
    rw [alike.requests]
    exact h
  · intro route noted just
    have created : noted.requests.NotesObjects := (h.put newRequest_notesObject).congr just.held
    apply ends_settle just.stored
    · intro left alike'
      rw [alike'.requests]
      exact created
    · intro answer mid left done alike'
      rw [alike'.requests]
      exact done.notesObjects newRequest_notesObject created
    · intro e left failed
      exact failed.notesObjects created

end Service

variable {w : World}

/-- No call makes a stored request note anything but an object. -/
theorem RequestCall.notesObjects_after (setup : Setup) (c : RequestCall)
    (h : w.requests.NotesObjects) : (c.after setup w).requests.NotesObjects := by
  cases c with
  | submit who s => exact (Service.notesObjects_submit h who s).left
  | updateStatus who id v => exact (Service.notesObjects_updateStatus h who id v).left
  | updateProposal | expireDue =>
    -- Neither touches what is noted.
    intro r' stored
    rcases RequestCall.stored_after stored with here | ⟨r, here, edit⟩ | ⟨_, _, submitted, _⟩
    · exact h r' here
    · cases edit
      exact h r here
    · cases submitted

theorem World.Reached.notesObjects (reached : w.Reached) : w.requests.NotesObjects := by
  induction reached with
  | start empty =>
    intro r stored
    rw [empty] at stored
    cases stored
  | move _ stay _ ih =>
    rw [stay]
    exact ih
  | call _ setup c _ ih => exact c.notesObjects_after setup ih

end AccessBroker
