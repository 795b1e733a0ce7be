import Automation.Proofs.Flow.Walk
import Automation.Proofs.Program.Footprint

/-!
# Visits of a run

What the visit of one node may do. A visit posts the message of an action, or waits for a delay that
the guard allows, or leaves nothing behind; it goes on to the next node, or it fails for a reason
that its type of node can give (`Visits`). Nothing is said of what the audit and the record of the
run do around it.
-/

set_option autoImplicit false

namespace Automation

open World (Outcome)
open Program

/-- A failure with which a delivery ends. -/
def Failure.IsOfDelivery : Failure → Prop
  | .undelivered _ | .mail _ | .address _ | .noNotifier => True
  | _ => False

/-- How a delivery ends: with any value, or in a failure of its own. -/
def IsDeliveryEnd : (delivered : Bool) → Outcome Value → Prop
  | true, o => ∃ v, o = .done v
  | false, o => ∃ f, o = .failed f ∧ f.IsOfDelivery

theorem isDeliveryEnd_done {delivered : Bool} {v : Value} :
    IsDeliveryEnd delivered (.done v) ↔ delivered = true := by
  cases delivered <;> simp [IsDeliveryEnd]

theorem isDeliveryEnd_failed {delivered : Bool} {f : Failure} :
    IsDeliveryEnd delivered (.failed f) ↔ delivered = false ∧ f.IsOfDelivery := by
  cases delivered <;> simp [IsDeliveryEnd]

theorem not_isDeliveryEnd_cancelled {delivered : Bool} :
    ¬ IsDeliveryEnd delivered .cancelled := by
  cases delivered <;> simp [IsDeliveryEnd]

/-- Where a mailer posts to, if its address is one. -/
def Mailer.target (m : Mailer) : Except UrlDefect Url := (Url.parse m.url).bind Url.empty.merge

/-- The request by which a mailer posts a message. -/
def Mailer.letter (m : Mailer) (target : Url) (address subject body : String) : Mail.Post :=
  ⟨target.text, ⟨m.source, address, subject, body⟩⟩

/-- Whether the answer to a post says that its message is accepted: a reply that can be read, with
a status that says so. -/
def Mailer.isDelivered (target : Url) : Except Mail.TransportFault Mail.Reply → Bool
  | .error _ => false
  | .ok reply => (replyFault? target reply).isNone && reply.content.isOk && reply.isAccepted

/-- The exchanges of an attempt to deliver a message, and whether it is delivered. -/
inductive Notifier.Delivers (address subject body : String) :
    Notifier → List Exchange → Bool → Prop
  | nobody {es : List Exchange} (hes : footprint es = {}) :
      Delivers address subject body .nobody es false
  | nowhere {m : Mailer} {d : UrlDefect} {es : List Exchange} (htarget : m.target = .error d)
      (hes : footprint es = {}) : Delivers address subject body (.mailer m) es false
  | posted {m : Mailer} {target : Url} {before after : List Exchange}
      {answer : Except Mail.TransportFault Mail.Reply} (htarget : m.target = .ok target)
      (hbefore : footprint before = {}) (hafter : footprint after = {}) :
      Delivers address subject body (.mailer m)
        (before ++ ⟨.post (m.letter target address subject body), answer⟩ :: after)
        (Mailer.isDelivered target answer)

/-- The messages that an attempt to deliver one posts. -/
def Notifier.letters (r : Notifier) (address subject body : String) : List Mail.Post :=
  match r with
  | .nobody => []
  | .mailer m =>
    match m.target with
    | .ok target => [m.letter target address subject body]
    | .error _ => []

/-- The body of the message of an action. -/
def Runner.bodyOf (message : Option String) : String :=
  match message with
  | none | some "" => "No message provided"
  | some message => message

/-! ## Deliveries -/

namespace Notifier

variable {r : Notifier} {address subject body : String} {es : List Exchange} {delivered : Bool}

theorem Delivers.footprint_eq (h : Delivers address subject body r es delivered) :
    footprint es = { posts := r.letters address subject body } := by
  cases h with
  | nobody hes => exact hes
  | nowhere htarget hes =>
    simp only [letters, htarget]
    exact hes
  | posted htarget hbefore hafter =>
    simp only [letters, htarget]
    rw [footprint_append, footprint_cons, hbefore, hafter]
    rfl

/-- What leaves nothing behind may come before a delivery. -/
theorem Delivers.cons {e : Exchange} (h : Delivers address subject body r es delivered)
    (he : e.footprint = {}) : Delivers address subject body r (e :: es) delivered := by
  cases h with
  | nobody hes => exact Delivers.nobody (by rw [footprint_cons, he, hes]; rfl)
  | nowhere htarget hes =>
    exact Delivers.nowhere htarget (by rw [footprint_cons, he, hes]; rfl)
  | posted htarget hbefore hafter =>
    rw [← List.cons_append]
    exact Delivers.posted htarget (by rw [footprint_cons, he, hbefore]; rfl) hafter

end Notifier

namespace Mailer

/-- What leaves nothing behind and ends as a delivery does. -/
def Quiet (p : Program Value) (delivered : Bool) : Prop :=
  p.Ensures Exchange.IsPatient fun es o => footprint es = {} ∧ IsDeliveryEnd delivered o

theorem quiet_refuse (remark : String) (f : DeliveryFault) : Quiet (refuse remark f) false :=
  fun _ _ => ⟨rfl, _, rfl, trivial⟩

theorem quiet_mail (f : Mail.Fault) : Quiet (.failed (.mail f)) false :=
  ⟨rfl, _, rfl, trivial⟩

/-- A body is read with at most a remark, or the delivery fails. -/
theorem contentOf_ensures {allowed : Exchange → Prop} (reply : Mail.Reply) :
    (contentOf reply).Ensures allowed fun es o =>
      footprint es = {} ∧ o = outcomeOf (reply.content.mapError .mail) := by
  unfold contentOf orFault
  cases reply.content with
  | error f => exact ⟨rfl, rfl⟩
  | ok content =>
    cases content with
    | record fields => exact ⟨rfl, rfl⟩
    | other => exact ⟨rfl, rfl⟩
    | malformed => exact fun _ _ => ⟨rfl, rfl⟩

theorem quiet_accept (address : String) (reply : Mail.Reply) :
    Quiet (accept address reply) (reply.content.isOk && reply.isAccepted) := by
  unfold accept
  cases hcontent : reply.content with
  | error f =>
    refine (contentOf_ensures reply).bind ?_ ?_ ?_
    · rintro es content ⟨-, ho⟩
      rw [hcontent] at ho
      cases ho
    · rintro es f' ⟨hes, ho⟩
      rw [hcontent] at ho
      cases ho
      exact ⟨hes, _, rfl, trivial⟩
    · rintro es ⟨-, ho⟩
      rw [hcontent] at ho
      cases ho
  | ok content =>
    refine Ensures.bind_done (P := fun es c => footprint es = {}) ?_ ?_
    · refine (contentOf_ensures reply).mono ?_
      rintro es o ⟨hes, ho⟩
      rw [hcontent] at ho
      exact ⟨content, ho, hes⟩
    · intro es c hes
      cases haccepted : reply.isAccepted with
      | true =>
        intro _ _
        exact ⟨by simp [hes, Exchange.footprint], _, rfl⟩
      | false =>
        show Ensures _ (orFault (reply.detail c) >>= _) _
        unfold orFault
        cases reply.detail c with
        | error f => exact ⟨by simp [hes], _, rfl, trivial⟩
        | ok detail =>
          intro _ _
          exact ⟨by simp [hes, Exchange.footprint], _, rfl, trivial⟩

/-- Whatever the service answers, one message is posted. -/
theorem post_ensures (m : Mailer) {target : Url} (htarget : m.target = .ok target)
    (address subject body : String) :
    (m.post target address subject body).Ensures Exchange.IsPatient fun es o =>
      ∃ delivered, (Notifier.mailer m).Delivers address subject body es delivered ∧
        IsDeliveryEnd delivered o := by
  intro answer _
  -- after the post nothing is left behind, so it is enough to say how the rest ends
  have hpost : ∀ {p : Program Value}, Quiet p (isDelivered target answer) →
      p.Ensures Exchange.IsPatient fun es o => ∃ delivered,
        (Notifier.mailer m).Delivers address subject body
          (⟨.post (m.letter target address subject body), answer⟩ :: es) delivered ∧
            IsDeliveryEnd delivered o :=
    fun hp => hp.mono fun es o ⟨hes, ho⟩ =>
      ⟨_, @Notifier.Delivers.posted _ _ _ m target [] es answer htarget rfl hes, ho⟩
  rcases answer with ⟨_ | _, _⟩ | reply
  · exact hpost (quiet_refuse _ _)
  · exact hpost (quiet_refuse _ _)
  · simp only
    cases hfault : replyFault? target reply with
    | some f =>
      have hdelivered : isDelivered target (.ok reply) = false := by simp [isDelivered, hfault]
      rw [hdelivered] at hpost
      exact hpost (quiet_mail f)
    | none =>
      have hdelivered : isDelivered target (.ok reply) =
          (reply.content.isOk && reply.isAccepted) := by simp [isDelivered, hfault]
      rw [hdelivered] at hpost
      exact hpost (quiet_accept address reply)

end Mailer

/-- An attempt to deliver a message ends as a delivery does. -/
theorem Notifier.send_ensures (r : Notifier) (address subject body : String) :
    (r.send address subject body).Ensures Exchange.IsPatient fun es o =>
      ∃ delivered, r.Delivers address subject body es delivered ∧ IsDeliveryEnd delivered o := by
  cases r with
  | nobody => exact ⟨false, Delivers.nobody rfl, _, rfl, trivial⟩
  | mailer m =>
    intro _ _
    show Ensures _ (match m.target with
      | .ok target => m.post target address subject body
      | .error d => .failed (.address d)) _
    cases htarget : m.target with
    | error d => exact ⟨false, Delivers.nowhere htarget rfl, _, rfl, trivial⟩
    | ok target =>
      refine (m.post_ensures htarget address subject body).mono ?_
      rintro es o ⟨delivered, hes, ho⟩
      exact ⟨delivered, hes.cons rfl, ho⟩

/-! ## Visits -/

namespace Runner

/-- How the visit of a node may end. -/
inductive Visits (r : Runner) (a : Assignment) (n : Node) (used : Usage) :
    List Exchange → Outcome Step → Prop
  /-- A node at which nothing is sent and nothing waits. -/
  | passed {es : List Exchange} {message : String} (hquiet : n.type ∉ ["action", "delay"])
      (hnext : n.type = "condition" → (a.flow.follow? n (n.outcome a.recipient)).isSome)
      (hes : footprint es = {}) :
      Visits r a n used es (.done ⟨message, used, a.flow.follow? n (n.outcome a.recipient)⟩)
  /-- A condition without a way on. -/
  | astray {es : List Exchange} {f : Failure} (hcond : n.type = "condition")
      (hnext : a.flow.follow? n (n.outcome a.recipient) = none) (hes : footprint es = {}) :
      Visits r a n used es (.failed f)
  | sent {es : List Exchange} {message : String} {text : Option String} {extras : Fields}
      (haction : n.payload = .action text extras)
      (hes : r.notifier.Delivers a.recipient r.subject (bodyOf text) es true) :
      Visits r a n used es (.done ⟨message, used, a.flow.follow? n (n.outcome a.recipient)⟩)
  | unsent {es : List Exchange} {text : Option String} {extras : Fields} {f : Failure}
      (haction : n.payload = .action text extras)
      (hes : r.notifier.Delivers a.recipient r.subject (bodyOf text) es false)
      (hf : f.IsOfDelivery) : Visits r a n used es (.failed f)
  | waited {rest : List Exchange} {message : String} {d : Delay} {now : Moment} {ms : Int}
      (hdelay : n.payload = .delay d) (hms : d.milliseconds now = .ok ms)
      (hguard : Guard.check used ms = .allowed) (hes : footprint rest = { sleeps := [ms] }) :
      Visits r a n used (⟨.clock, now⟩ :: rest)
        (.done ⟨message, ⟨used.steps, used.delayMs + ms⟩,
          a.flow.follow? n (n.outcome a.recipient)⟩)
  | unmeasured {d : Delay} {now : Moment} {fault : DelayFault} (hdelay : n.payload = .delay d)
      (hms : d.milliseconds now = .error fault) :
      Visits r a n used [⟨.clock, now⟩] (.failed (.delay fault))
  | rejected {d : Delay} {now : Moment} {ms : Int} {reason : Guard.Rejection}
      (hdelay : n.payload = .delay d) (hms : d.milliseconds now = .ok ms)
      (hguard : Guard.check used ms = .rejected reason) :
      Visits r a n used [⟨.clock, now⟩] (.failed (.rejected reason))
  /-- A wait too long for a number in double precision. -/
  | unstated {rest : List Exchange} {d : Delay} {now : Moment} {ms : Int}
      (hdelay : n.payload = .delay d) (hms : d.milliseconds now = .ok ms)
      (hsize : Guard.check used ms = .unstated ∨
        Guard.check used ms = .allowed ∧
          ∃ negative, Binary64.ofIntRatio ms 1000 = .infinite negative)
      (hes : footprint rest = {}) :
      Visits r a n used (⟨.clock, now⟩ :: rest) (.failed .quotientSize)

variable {r : Runner} {a : Assignment} {n : Node} {used : Usage}

theorem reportAll_ensures (remarks : List Journal.Entry) :
    (reportAll remarks).Ensures Exchange.IsPatient fun es o =>
      o = .done () ∧ footprint es = {} := by
  induction remarks with
  | nil => exact ⟨rfl, rfl⟩
  | cons e rest ih => exact fun _ _ => ih

/-- An action posts its message, and the run goes on if it was delivered. -/
theorem visitAction_ensures {message : Option String} {extras : Fields}
    (hpayload : n.payload = .action message extras) :
    (r.visitAction a n message used).Ensures Exchange.IsPatient (r.Visits a n used) := by
  have hfollow : a.flow.next? n.id = a.flow.follow? n (n.outcome a.recipient) := by
    rw [Flow.follow?, hpayload]
  intro u _
  show Ensures _ (r.notifier.send a.recipient r.subject (bodyOf message) >>= _) _
  refine (r.notifier.send_ensures a.recipient r.subject (bodyOf message)).bind ?_ ?_ ?_
  · rintro es v ⟨delivered, hes, ho⟩
    obtain rfl := isDeliveryEnd_done.1 ho
    rw [hfollow]
    simpa using Visits.sent hpayload (hes.cons rfl)
  · rintro es f ⟨delivered, hes, ho⟩
    obtain ⟨rfl, hf⟩ := isDeliveryEnd_failed.1 ho
    exact Visits.unsent hpayload (hes.cons rfl) hf
  · rintro es ⟨delivered, -, ho⟩
    exact absurd ho not_isDeliveryEnd_cancelled

/-- A delay waits for as long as it says, if the guard allows it. -/
theorem visitDelay_ensures {d : Delay} (hpayload : n.payload = .delay d) :
    (visitDelay a n d used).Ensures Exchange.IsPatient (r.Visits a n used) := by
  have hfollow : a.flow.next? n.id = a.flow.follow? n (n.outcome a.recipient) := by
    rw [Flow.follow?, hpayload]
  unfold visitDelay
  simp only [ensures_now_bind]
  intro now _
  cases hms : d.milliseconds now with
  | error fault => exact Visits.unmeasured hpayload hms
  | ok ms =>
    -- the guard is asked before the pause, with what was used so far
    show Ensures _ (passGuard (Guard.check used ms) >>= _) _
    cases hguard : Guard.check used ms with
    | rejected reason => exact Visits.rejected hpayload hms hguard
    | unstated => exact Visits.unstated hpayload hms (Or.inl hguard) rfl
    | allowed =>
      intro _ _
      unfold pause
      split
      -- the wait in seconds is no number in double precision
      · rename_i negative hseconds
        exact Visits.unstated hpayload hms (Or.inr ⟨hguard, negative, hseconds⟩) rfl
      · rintro wake hwake
        obtain rfl : wake = .elapsed := hwake
        rw [hfollow]
        exact Visits.waited hpayload hms hguard rfl

/-- A condition goes on along the edge for its outcome, if there is one. -/
theorem visitCondition_ensures {rules : List Rule} {extras : Fields}
    (hpayload : n.payload = .condition rules extras) :
    (visitCondition a n rules used).Ensures Exchange.IsPatient (r.Visits a n used) := by
  have hcond : n.type = "condition" := by rw [Node.type, hpayload]; rfl
  have hfollow : ∀ outcome, a.flow.follow? n outcome =
      (branch? a.flow n.id outcome).bind fun e => a.flow.node? e.target :=
    Flow.follow?_of_condition hpayload
  unfold visitCondition Condition.evaluate
  refine Ensures.bind_done (P := fun es _ => footprint es = {}) ?_ ?_
  · exact (reportAll_ensures _).mono fun _ _ h => ⟨(), h⟩
  · intro es _ hes
    rw [← Node.outcome_of_condition hpayload]
    cases hbranch : branch? a.flow n.id (n.outcome a.recipient) with
    | none =>
      intro u _
      refine Visits.astray hcond (by rw [hfollow, hbranch]; rfl) ?_
      rw [footprint_append, hes]
      rfl
    | some e =>
      cases hnode : a.flow.node? e.target with
      | none =>
        simp only [hnode, ensures_failed]
        exact Visits.astray hcond (by rw [hfollow, hbranch]; exact hnode) (by simpa using hes)
      | some next =>
        have hnext : a.flow.follow? n (n.outcome a.recipient) = some next := by
          rw [hfollow, hbranch]
          exact hnode
        simp only [hnode, ensures_pure]
        rw [← hnext]
        exact Visits.passed (by simp [hcond]) (fun _ => by rw [hnext]; rfl) (by simpa using hes)

/-- What the visit of a node may do. -/
theorem visit_ensures (r : Runner) (a : Assignment) (n : Node) (used : Usage) :
    (r.visit a n used).Ensures Exchange.IsPatient (r.Visits a n used) := by
  have hpassed : n.type ∉ ["action", "delay", "condition"] → ∀ message next es,
      next = a.flow.follow? n (n.outcome a.recipient) → footprint es = {} →
      r.Visits a n used es (.done ⟨message, used, next⟩) := by
    intro htype message next es hnext hes
    simp only [List.mem_cons, List.not_mem_nil, or_false, not_or] at htype
    rw [hnext]
    exact Visits.passed (by simp [htype.1, htype.2.1]) (fun h => absurd h htype.2.2) hes
  unfold visit
  cases hpayload : n.payload with
  | action message extras => exact visitAction_ensures hpayload
  | delay d => exact visitDelay_ensures hpayload
  | condition rules extras => exact visitCondition_ensures hpayload
  | start extras =>
    exact hpassed (by simp [Node.type, hpayload, Payload.type]) _ _ _
      (by rw [Flow.follow?, hpayload]) rfl
  | finish extras =>
    exact hpassed (by simp [Node.type, hpayload, Payload.type]) _ _ _
      (by rw [Flow.follow?, hpayload]) rfl
  | foreign type hforeign settings =>
    intro _ _
    refine hpassed ?_ _ _ _ (by rw [Flow.follow?, hpayload]) rfl
    intro hknown
    refine hforeign ?_
    rw [Node.type, hpayload] at hknown
    simp only [Payload.type, List.mem_cons, List.not_mem_nil, or_false] at hknown
    rcases hknown with rfl | rfl | rfl <;> simp [knownTypes]

end Runner

end Automation
