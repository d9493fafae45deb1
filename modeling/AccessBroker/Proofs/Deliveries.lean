import AccessBroker.Notify.Webhook
import AccessBroker.Schedule.Wait

/-! # What is delivered to a webhook

When the peer replies after a script, all of a delivery can be told beforehand:
which attempt is the last one, what is done until then, and what comes of it.
-/

namespace AccessBroker.Webhook

/-! ## Replies -/

inductive Reply.Answers : Reply → Nat → String → Prop where
  | whole (code : Nat) (body : String) : Answers (.status code body) code body
  | cut (code : Nat) : Answers (.cut code) code "<response body unavailable>"

/-- Another attempt may help: the connection failed, the peer is at fault, or it is too busy. -/
inductive Reply.Passes : Reply → Prop where
  | broken (reason : String) : Passes (.broken reason)
  | answered {reply : Reply} {code : Nat} {body : String} (answers : reply.Answers code body)
    (passing : (500 ≤ code ∧ code ≤ 599) ∨ code = 429) : Passes reply

def Reply.failure (id : String) : Reply → String
  | status code _ | cut code =>
    s!"transient HTTP status {Http.statusText code} for access request notification '{id}'"
  | broken reason => "access request notification transport error: " ++ reason

namespace Reply

variable {reply : Reply} {id body : String} {code : Nat}

theorem Answers.verdict (answers : reply.Answers code body) :
    reply.verdict id = judge id code body := by
  cases answers <;> rfl

theorem Answers.failure (answers : reply.Answers code body) :
    reply.failure id = passingStatus id code := by
  cases answers <;> rfl

theorem Answers.passes_iff (answers : reply.Answers code body) :
    reply.Passes ↔ (500 ≤ code ∧ code ≤ 599) ∨ code = 429 := by
  refine ⟨fun passes => ?_, .answered answers⟩
  cases passes with
  | broken => cases answers
  | answered answers' passing => cases answers <;> cases answers' <;> exact passing

theorem exists_answers (answered : ¬ reply.Passes) : ∃ code body, reply.Answers code body := by
  cases reply with
  | status code body => exact ⟨code, body, .whole code body⟩
  | cut code => exact ⟨code, _, .cut code⟩
  | broken reason => exact absurd (.broken reason) answered

theorem Passes.verdict (passes : reply.Passes) :
    reply.verdict id = .passing (reply.failure id) := by
  cases passes with
  | broken => rfl
  | answered answers passing =>
    rw [answers.verdict, answers.failure, judge, if_neg, if_pos]
    · simp only [Bool.or_eq_true, Bool.and_eq_true, decide_eq_true_eq, beq_iff_eq]
      omega
    · simp only [Bool.and_eq_true, decide_eq_true_eq]
      omega

/-- What is made of a reply after which no attempt is going to help. -/
theorem Answers.verdict_of_not_passes (answers : reply.Answers code body)
    (ends : ¬ reply.Passes) :
    reply.verdict id =
      if 200 ≤ code ∧ code ≤ 299 then .taken else .refused (refusal code body) := by
  rw [answers.passes_iff] at ends
  rw [answers.verdict, judge]
  by_cases taken : 200 ≤ code ∧ code ≤ 299
  · rw [if_pos taken, if_pos]
    simp only [Bool.and_eq_true, decide_eq_true_eq]
    omega
  · rw [if_neg taken, if_neg, if_neg]
    · simp only [Bool.or_eq_true, Bool.and_eq_true, decide_eq_true_eq, beq_iff_eq]
      omega
    · simp only [Bool.and_eq_true, decide_eq_true_eq]
      omega

end Reply

/-! ## One attempt -/

section

variable {w : Webhook} {event : Event} {met : Nat → Reply} {made last : Nat}
  {failure : Option String}

/-- As long as attempts are left, the count of them has not come to its end. -/
theorem countUp_of_lt (left : made < w.attempts) : countUp made = made + 1 := by
  have := w.attempts_le
  simp only [countUp]
  omega

theorem sendAfter_of_used (used : w.attempts ≤ made) :
    w.sendAfter event met made failure = ⟨[], .error (exhausted failure)⟩ := by
  rw [sendAfter, if_neg (Nat.not_lt.2 used)]

/-- An attempt after which another may help is followed by a pause only if another follows. -/
theorem sendAfter_of_passes (left : made < w.attempts) (passes : (met (made + 1)).Passes) :
    w.sendAfter event met made failure =
      let rest := w.sendAfter event met (made + 1)
        (some ((met (made + 1)).failure event.requestId))
      ⟨posts event ++
        (if made + 1 < w.attempts then [.paused (w.pause (made + 1))] else []) ++ rest.deeds,
        rest.result⟩ := by
  rw [sendAfter, if_pos left, countUp_of_lt left]
  simp only [passes.verdict]

/-- What comes of an event when no further attempt is going to help. -/
def settled (code : Nat) (body : String) : Except Error Unit :=
  if 200 ≤ code ∧ code ≤ 299 then .ok ()
  else .error (.validation
    s!"access request notification failed with status {Http.statusText code}: {body}")

theorem sendAfter_of_not_passes (left : made < w.attempts)
    (ends : ¬ (met (made + 1)).Passes) :
    ∃ code body, (met (made + 1)).Answers code body ∧
      w.sendAfter event met made failure = ⟨posts event, settled code body⟩ := by
  obtain ⟨code, body, answers⟩ := Reply.exists_answers ends
  refine ⟨code, body, answers, ?_⟩
  rw [sendAfter, if_pos left, countUp_of_lt left]
  simp only [answers.verdict_of_not_passes ends]
  by_cases taken : 200 ≤ code ∧ code ≤ 299
  · rw [if_pos taken, settled, if_pos taken]
  · rw [if_neg taken, settled, if_neg taken]
    rfl

/-! ## A delivery -/

/-- The attempts from `first` to `last`, each but the last one followed by its pause, when `sent` is
what one of them posts. -/
def course (sent : List Deed) (pauses : Nat → Nat) (first last : Nat) : List Deed :=
  sent ++ (List.range' first (last - first)).flatMap fun j => .paused (pauses j) :: sent

theorem course_self (sent : List Deed) (pauses : Nat → Nat) :
    course sent pauses last last = sent := by
  simp [course]

theorem course_of_lt (sent : List Deed) (pauses : Nat → Nat) {first : Nat} (before : first < last) :
    course sent pauses first last =
      sent ++ [.paused (pauses first)] ++ course sent pauses (first + 1) last := by
  have more : last - first = (last - (first + 1)) + 1 := by omega
  simp [course, more, List.range'_succ]

/-- What comes of the attempt `last`: it settles the event, or it was one too many to fail. -/
inductive Ended (w : Webhook) (event : Event) (met : Nat → Reply) (last : Nat) :
    Except Error Unit → Prop where
  | settled {code : Nat} {body : String} (ends : ¬ (met last).Passes)
    (answers : (met last).Answers code body) : Ended w event met last (settled code body)
  | spent (none : last = w.attempts) (passes : (met last).Passes) :
    Ended w event met last (.error (.internal ((met last).failure event.requestId)))

structure Delivers (w : Webhook) (event : Event) (met : Nat → Reply) (first last : Nat)
    (report : Report) : Prop where
  within : first ≤ last ∧ last ≤ w.attempts
  passing : ∀ j, first ≤ j → j < last → (met j).Passes
  deeds : report.deeds = course (posts event) w.pause first last
  ended : Ended w event met last report.result

/-- The attempts that are left go on to the first after which no other is going to help, or to the
last of them. -/
theorem sendAfter_delivers (left : made < w.attempts) (failure : Option String) :
    ∃ last, Delivers w event met (made + 1) last (w.sendAfter event met made failure) := by
  induction more : w.attempts - (made + 1) generalizing made failure with
  | zero =>
    have all : made + 1 = w.attempts := by omega
    refine ⟨made + 1, ?_⟩
    by_cases passes : (met (made + 1)).Passes
    · rw [sendAfter_of_passes left passes, sendAfter_of_used (Nat.le_of_eq all.symm),
        if_neg (by omega), List.append_nil]
      exact ⟨by omega, by omega, (List.append_nil _).trans (course_self ..).symm, .spent all passes⟩
    · obtain ⟨code, body, answers, sent⟩ := sendAfter_of_not_passes left passes
      rw [sent]
      exact ⟨by omega, by omega, (course_self ..).symm, .settled passes answers⟩
  | succ more ih =>
    by_cases passes : (met (made + 1)).Passes
    · have next : made + 1 < w.attempts := by omega
      obtain ⟨last, rest⟩ :=
        ih next (some ((met (made + 1)).failure event.requestId)) (by omega)
      have within := rest.within
      rw [sendAfter_of_passes left passes, if_pos next]
      refine ⟨last, ⟨by omega, fun j from_ before => ?_, ?_, rest.ended⟩⟩
      · by_cases here : j = made + 1
        · rw [here]
          exact passes
        · exact rest.passing j (by omega) before
      · rw [course_of_lt _ _ (by omega), ← rest.deeds]
    · obtain ⟨code, body, answers, sent⟩ := sendAfter_of_not_passes left passes
      rw [sent]
      exact ⟨made + 1, by omega, by omega, (course_self ..).symm, .settled passes answers⟩

variable {report : Report}

/-- The first attempt after which no other is going to help is the last one. -/
theorem Delivers.of_not_passes (delivers : Delivers w event met 1 last report) {k : Nat}
    (first : 1 ≤ k) (most : k ≤ w.attempts) (before : ∀ j, 1 ≤ j → j < k → (met j).Passes)
    (ends : ¬ (met k).Passes) :
    last = k ∧ ∃ code body, (met k).Answers code body ∧ report.result = settled code body := by
  have within := delivers.within
  have notLater : ¬ k < last := fun later => ends (delivers.passing k first later)
  have ended := delivers.ended
  generalize report.result = result at ended
  cases ended with
  | @settled code body ends' answers =>
    have notEarlier : ¬ last < k := fun earlier => ends' (before last within.1 earlier)
    have here : last = k := by omega
    exact ⟨here, code, body, here ▸ answers, rfl⟩
  | spent none passes =>
    have here : last = k := by omega
    exact absurd (here ▸ passes) ends

/-- If each attempt might be followed by a better one, all of them are made. -/
theorem Delivers.of_passes (delivers : Delivers w event met 1 last report)
    (passes : ∀ j, 1 ≤ j → j ≤ w.attempts → (met j).Passes) :
    last = w.attempts ∧
      report.result = .error (.internal ((met w.attempts).failure event.requestId)) := by
  have within := delivers.within
  have ended := delivers.ended
  generalize report.result = result at ended
  cases ended with
  | settled ends _ => exact absurd (passes last within.1 within.2) ends
  | spent none _ => exact ⟨none, by rw [none]⟩

end

theorem attempts_of (attempts : UInt8) (backoff : Nat) :
    (of attempts.toNat backoff).attempts = max 1 attempts.toNat := by
  have := attempts.toNat_lt
  simp only [of, lastNumber]
  omega

theorem backoff_of (attempts : Nat) (backoff : UInt64) :
    (of attempts backoff.toNat).backoff = max 50 backoff.toNat := by
  have := backoff.toNat_lt
  simp only [of, maxPause]
  omega

/-- No wait is long enough to show where the length of a pause is cut. -/
theorem lasting_min_maxPause (asked : Nat) :
    Wait.lasting (min asked maxPause) = Wait.lasting asked := by
  simp only [Wait.lasting, Wait.longest, maxPause]
  omega

section

variable {event : Event} (attempts : UInt8) (backoff : UInt64) (unmade : String)
  (peer : Nat → Reply)

theorem send_delivers (event : Event) :
    ∃ last, Delivers (of attempts.toNat backoff.toNat) event
        (fun j => meets event unmade (peer j)) 1 last
        ((of attempts.toNat backoff.toNat).send event unmade peer) ∧
      ((of attempts.toNat backoff.toNat).send event unmade peer).deeds =
        course (posts event) (fun j => min (max 50 backoff.toNat * j) 18446744073709551615) 1
          last := by
  obtain ⟨last, delivers⟩ :=
    sendAfter_delivers (of attempts.toNat backoff.toNat).attempts_pos none
  refine ⟨last, delivers, delivers.deeds.trans ?_⟩
  congr 1
  funext j
  rw [pause, backoff_of]
  rfl

theorem meets_of_postable (postable : isPostable event = true) (reply : Reply) :
    meets event unmade reply = reply :=
  if_pos postable

theorem isPostable_iff :
    isPostable event = true ↔
      ∀ c ∈ event.requestId.toList, Http.Header.isControl c = false := by
  simp [isPostable]

/-- All attempts at an event that cannot be posted fail, and nothing is done but to wait. -/
theorem send_of_control (control : ∃ c ∈ event.requestId.toList, Http.Header.isControl c = true) :
    ((of attempts.toNat backoff.toNat).send event unmade peer).deeds =
        course [] (fun j => min (max 50 backoff.toNat * j) 18446744073709551615) 1
          (max 1 attempts.toNat) ∧
      ((of attempts.toNat backoff.toNat).send event unmade peer).result =
        .error (.internal ("access request notification transport error: " ++ unmade)) := by
  have blocked : isPostable event ≠ true := by
    intro postable
    obtain ⟨c, member, control⟩ := control
    rw [isPostable_iff.1 postable c member] at control
    cases control
  have sent : posts event = [] := if_neg blocked
  have met (j : Nat) : meets event unmade (peer j) = .broken unmade := if_neg blocked
  obtain ⟨last, delivers, deeds⟩ := send_delivers attempts backoff unmade peer event
  simp only [met] at delivers
  obtain ⟨rfl, failed⟩ := delivers.of_passes fun _ _ _ => .broken unmade
  rw [sent, attempts_of] at deeds
  exact ⟨deeds, failed⟩

end

/-- An event whose request has an id without control characters is posted, each time alike, up to
the first attempt whose reply is not one that may pass, and that reply decides.  If there is none
among the attempts that are allowed, all of them are made, and the error tells how the last one
failed.  Any other event is never posted, and all attempts at it fail.  Between two attempts there
is a pause of as many steps as attempts were made, up to what 64 bits tell and a wait may last, and
none after the last attempt. -/
theorem deliveries_of_script (attempts : UInt8) (backoff : UInt64) (event : Event) (unmade : String)
    (peer : Nat → Reply) :
    let allowed := max 1 attempts.toNat
    let step := max 50 backoff.toNat
    let pauses (j : Nat) := min (step * j) 18446744073709551615
    let report := (of attempts.toNat backoff.toNat).send event unmade peer
    ((∀ c ∈ event.requestId.toList, Http.Header.isControl c = false) →
      (∀ k, 1 ≤ k → k ≤ allowed → (∀ j, 1 ≤ j → j < k → (peer j).Passes) → ¬ (peer k).Passes →
        report.deeds = course [.posted (post event)] pauses 1 k ∧
        ∃ code body, (peer k).Answers code body ∧ report.result = settled code body) ∧
      ((∀ j, 1 ≤ j → j ≤ allowed → (peer j).Passes) →
        report.deeds = course [.posted (post event)] pauses 1 allowed ∧
        report.result = .error (.internal ((peer allowed).failure event.requestId)))) ∧
    ((∃ c ∈ event.requestId.toList, Http.Header.isControl c = true) →
      report.deeds = course [] pauses 1 allowed ∧
      report.result =
        .error (.internal ("access request notification transport error: " ++ unmade))) ∧
    ∀ j, Wait.lasting (pauses j) = Wait.lasting (step * j) := by
  intro allowed step pauses report
  obtain ⟨last, delivers, deeds⟩ := send_delivers attempts backoff unmade peer event
  have most : (of attempts.toNat backoff.toNat).attempts = allowed := attempts_of ..
  refine ⟨fun clean => ?_, send_of_control attempts backoff unmade peer,
    fun j => lasting_min_maxPause _⟩
  have postable : isPostable event = true := isPostable_iff.2 clean
  have sent : posts event = [.posted (post event)] := if_pos postable
  simp only [meets_of_postable unmade postable] at delivers
  rw [sent] at deeds
  refine ⟨fun k first below before ends => ?_, fun passes => ?_⟩
  · obtain ⟨rfl, decided⟩ := delivers.of_not_passes first (most ▸ below) before ends
    exact ⟨deeds, decided⟩
  · obtain ⟨rfl, failed⟩ := delivers.of_passes (most ▸ passes)
    rw [most] at deeds failed
    exact ⟨deeds, failed⟩

def submitted : Event where
  requestId := "r1"
  previous := none
  next := .pending
  requester := "alice@example.com"
  target := .group "ops@example.com"
  comments := none
  updatedBy := "alice@example.com"

/-- Its id has a line break. -/
def unpostable : Event :=
  { submitted with requestId := "r\n1" }

/-- The peer takes everything, and is not asked when the id of the request has a line break.  A step
that 64 bits just tell is not made longer for the second pause, and both last thirty years. -/
theorem unpostable_not_sent :
    ((of 1 50).send unpostable "builder error" fun _ => .status 200 "").deeds = [] ∧
      ((of 1 50).send unpostable "builder error" fun _ => .status 200 "").result =
        .error (.internal "access request notification transport error: builder error") ∧
      ¬ (Reply.status 200 "").Passes ∧
    ((of 3 18446744073709551615).send submitted "" fun _ => .broken).deeds =
      [.posted (post submitted), .paused 18446744073709551615, .posted (post submitted),
        .paused 18446744073709551615, .posted (post submitted)] ∧
      18446744073709551615 ≠ 18446744073709551615 * 2 ∧
      Wait.lasting 18446744073709551615 = 946080000000 := by
  have control : ∃ c ∈ unpostable.requestId.toList, Http.Header.isControl c = true :=
    List.any_eq_true.1 (by decide)
  obtain ⟨unsent, failed⟩ := send_of_control 1 50 "builder error" (fun _ => .status 200 "") control
  have taken : ¬ (Reply.status 200 "").Passes := by
    intro passes
    exact absurd ((Reply.Answers.whole 200 "").passes_iff.1 passes) (by decide)
  exact ⟨unsent, failed, taken, by decide +kernel, by decide, rfl⟩

/-- Fails, is busy, and then refuses without saying why. -/
def refusing (attempt : Nat) : Reply :=
  if attempt = 1 then .broken "connection reset"
  else if attempt = 2 then .status 429 "slow down" else .cut 404

theorem third_reply_refuses :
    ((of 255 18446744073709551615).send submitted "builder error" refusing).deeds =
        [.posted (post submitted), .paused 18446744073709551615, .posted (post submitted),
          .paused 18446744073709551615, .posted (post submitted)] ∧
      ((of 255 18446744073709551615).send submitted "builder error" refusing).result =
        .error (.validation
          "access request notification failed with status 404 Not Found: <response body unavailable>") ∧
      ((of 0 0).send submitted "builder error" refusing).deeds = [.posted (post submitted)] ∧
      ((of 0 0).send submitted "builder error" refusing).result =
        .error (.internal "access request notification transport error: connection reset") ∧
      ((of 2 0).send unpostable "builder error" refusing).deeds = [.paused 50] ∧
      ((of 2 0).send unpostable "builder error" refusing).result =
        .error (.internal "access request notification transport error: builder error") := by
  have clean : ∀ c ∈ submitted.requestId.toList, Http.Header.isControl c = false :=
    isPostable_iff.1 (by decide)
  have dirty : ∃ c ∈ unpostable.requestId.toList, Http.Header.isControl c = true :=
    List.any_eq_true.1 (by decide)
  have first : (refusing 1).Passes := .broken "connection reset"
  have second : (refusing 2).Passes := .answered (.whole 429 "slow down") (.inr rfl)
  have third : ¬ (refusing 3).Passes := by
    intro passes
    exact absurd ((Reply.Answers.cut 404).passes_iff.1 passes) (by decide)
  have before : ∀ j, 1 ≤ j → j < 3 → (refusing j).Passes
    | 1, _, _ => first
    | 2, _, _ => second
  obtain ⟨deeds, code, body, answers, result⟩ :=
    ((deliveries_of_script 255 18446744073709551615 submitted "builder error" refusing).1 clean).1 3
      (by decide) (by decide) before third
  have only : ∀ j, 1 ≤ j → j ≤ 1 → (refusing j).Passes
    | 1, _, _ => first
  obtain ⟨once, failed⟩ :=
    ((deliveries_of_script 0 0 submitted "builder error" refusing).1 clean).2 only
  obtain ⟨paused, refused⟩ :=
    (deliveries_of_script 2 0 unpostable "builder error" refusing).2.1 dirty
  refine ⟨deeds, ?_, once, failed, paused, refused⟩
  cases answers
  have text : Http.statusText 404 = "404 Not Found" := by decide +kernel
  rw [settled, if_neg (by decide), text] at result
  exact result

end AccessBroker.Webhook
