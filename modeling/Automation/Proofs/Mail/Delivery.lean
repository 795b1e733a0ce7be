import Automation.Proofs.Runner.Visit
import Mathlib.Data.List.TakeWhile

/-!
# What a delivery depends on

An attempt to deliver a message at an address that can be reached is one post and nothing else, and
its end is a function of the answer (`Mailer.send_ends`). Of a reply that can be read the status
alone decides which end it is: the content type and the bytes make up the id or the detail. The
theorem on deliveries (`Mailer.sent_iff_status`) says so, and what happens otherwise.
-/

set_option autoImplicit false

namespace Automation

open World (Outcome)

/-! ## Texts that can be read -/

namespace Text

theorem NotAscii.of?_eq_none_iff {s : String} :
    NotAscii.of? s = none ↔ ∀ c ∈ s.toList, isAscii c = true := by
  have hdrop : s.toList.drop (s.toList.takeWhile isAscii).length =
      s.toList.dropWhile isAscii := by
    calc s.toList.drop (s.toList.takeWhile isAscii).length
        = (s.toList.takeWhile isAscii ++ s.toList.dropWhile isAscii).drop
            (s.toList.takeWhile isAscii).length := by rw [List.takeWhile_append_dropWhile]
      _ = s.toList.dropWhile isAscii := List.drop_left
  have hof : NotAscii.of? s = none ↔ s.toList.dropWhile isAscii = [] := by
    unfold NotAscii.of?
    simp only [hdrop]
    cases hrest : s.toList.dropWhile isAscii with
    | nil => simp
    | cons c rest =>
      -- the first character that is left is beyond ASCII
      have hc : isAscii c = false := by
        have hhead := List.head?_dropWhile_not isAscii s.toList
        rw [hrest] at hhead
        simpa using hhead
      simp [hc]
  rw [hof, List.dropWhile_eq_nil_iff]

/-- Bytes can be read piece by piece in a charset of texts, unless the charset leaves the order of
the bytes open and they do not tell it. -/
theorem Charset.decode_eq_ok_iff {c : Charset} {bytes : List UInt8} (hbytes : bytes ≠ []) :
    (∃ s, c.decode bytes = .ok s) ↔ c.fault? bytes = none ∧ ∀ f, c ≠ .useless f := by
  have hcharacters : (∀ f, c ≠ .useless f) → ∃ cs, c.characters bytes = .ok cs := by
    intro huseful
    cases c with
    | useless f => exact absurd rfl (huseful f)
    | utf16 order =>
      cases order with
      | some order => exact ⟨_, rfl⟩
      | none => cases hmark : ByteOrder.ofMark16? bytes <;> simp [characters, hmark]
    | utf32 order =>
      cases order with
      | some order => exact ⟨_, rfl⟩
      | none => cases hmark : ByteOrder.ofMark32? bytes <;> simp [characters, hmark]
    | _ => exact ⟨_, rfl⟩
  unfold decode
  split
  · exact absurd rfl hbytes
  · rename_i hfault
    simp [hfault]
  · rename_i hfault
    simp only [hfault, true_and]
    constructor
    · rintro ⟨s, hs⟩ f rfl
      cases hs
    · intro huseful
      obtain ⟨cs, hcs⟩ := hcharacters huseful
      split
      · exact ⟨_, rfl⟩
      · exact ⟨_, by rw [hcs]; rfl⟩

end Text

/-! ## Replies that can be read -/

namespace Mail.Reply

variable {r : Reply}

/-- A reply that can be read: its content type is in ASCII, what is announced as JSON is not nested
too deeply, and the body of a refusal without a detail is in a charset of texts. -/
structure IsReadable (r : Reply) : Prop where
  ascii : ∀ s ∈ r.contentType, ∀ c ∈ s.toList, Text.isAscii c = true
  shallow : r.isJson = true → ∀ inList, Json.readBytes room r.body ≠ .error (.depth inList)
  text : r.isAccepted = false → r.body ≠ [] →
    (∀ content, r.content = .ok content → content.given? "detail" = none) →
      ∃ c, r.charset = .ok c ∧ c.fault? r.body = none ∧ ∀ f, c ≠ .useless f

/-- A reply that only a redirection gives: the message is to be sent elsewhere. -/
def IsRedirection (r : Reply) : Prop := 300 ≤ r.status ∧ r.status < 400

/-- The service has taken the message. -/
def IsSuccess (r : Reply) : Prop := 200 ≤ r.status ∧ r.status < 300

theorem content_eq_ok_iff : (∃ content, r.content = .ok content) ↔
    (r.isJson = true → ∀ inList, Json.readBytes room r.body ≠ .error (.depth inList)) := by
  unfold content
  cases r.isJson with
  | false => simp
  | true =>
    simp only [Bool.not_true, Bool.false_eq_true, if_false, true_implies]
    cases Json.readBytes room r.body with
    | ok v =>
      cases v <;> simp
    | error d =>
      cases d <;> simp

theorem text_eq_ok_iff (hbody : r.body ≠ []) : (∃ s, r.text = .ok s) ↔
    ∃ c, r.charset = .ok c ∧ c.fault? r.body = none ∧ ∀ f, c ≠ .useless f := by
  have hempty : r.body.isEmpty = false := by simpa using hbody
  unfold text
  simp only [hempty, Bool.false_eq_true, if_false]
  cases r.charset with
  | error f => simp [bind, Except.bind]
  | ok c =>
    simp only [bind, Except.bind, Except.ok.injEq, exists_eq_left']
    rw [← Text.Charset.decode_eq_ok_iff hbody]
    cases c.decode r.body <;> simp [Except.mapError]

/-- A refusal has a detail if the body gives one or can be read as text. -/
theorem detail_eq_ok_iff {content : Content} : (∃ detail, r.detail content = .ok detail) ↔
    (content.given? "detail" = none → ∃ s, r.text = .ok s) := by
  unfold detail
  cases content.given? "detail" <;> simp

/-- A reply that can be read has a content, and a detail if it is a refusal. -/
theorem isReadable_iff : r.IsReadable ↔ r.contentType.bind Text.NotAscii.of? = none ∧
    ∃ content, r.content = .ok content ∧
      (r.isAccepted = false → ∃ detail, r.detail content = .ok detail) := by
  have hascii : r.contentType.bind Text.NotAscii.of? = none ↔
      ∀ s ∈ r.contentType, ∀ c ∈ s.toList, Text.isAscii c = true := by
    cases r.contentType with
    | none => simp
    | some s => simp [Text.NotAscii.of?_eq_none_iff]
  constructor
  · intro h
    obtain ⟨content, hcontent⟩ := content_eq_ok_iff.2 h.shallow
    refine ⟨hascii.2 h.ascii, content, hcontent, fun hrefused => detail_eq_ok_iff.2 fun hnone => ?_⟩
    by_cases hbody : r.body = []
    · exact ⟨"", by simp [text, hbody, pure, Except.pure]⟩
    · refine (text_eq_ok_iff hbody).2 (h.text hrefused hbody fun content' hcontent' => ?_)
      rw [hcontent] at hcontent'
      cases hcontent'
      exact hnone
  · rintro ⟨hcontentType, content, hcontent, hdetail⟩
    refine ⟨hascii.1 hcontentType, content_eq_ok_iff.1 ⟨content, hcontent⟩, ?_⟩
    intro hrefused hbody hnone
    exact (text_eq_ok_iff hbody).1 (detail_eq_ok_iff.1 (hdetail hrefused) (hnone content hcontent))

/-- A reply without a content type can always be read. -/
theorem isReadable_of_contentType_eq_none (h : r.contentType = none) : r.IsReadable where
  ascii := by
    rw [h]
    rintro s ⟨⟩
  shallow := by
    have hjson : r.isJson = false := by
      rw [isJson, h]
      decide
    simp [hjson]
  text := by
    intro _ _ _
    refine ⟨.utf8, ?_, rfl, nofun⟩
    simp [charset, h, pure, Except.pure]

end Mail.Reply

namespace Mail.Fault

/-- No fault of a delivery says that the message was refused. -/
theorem kind_ne_delivery (f : Fault) : f.kind ≠ .delivery := by
  cases f with
  | charset f => cases f <;> nofun
  | _ => nofun

end Mail.Fault

/-! ## Deliveries -/

open Program

/-- A service that answers every message with one reply. -/
def Responder.replying (r : Mail.Reply) : Responder where
  answer
    | _, .post _ => .ok r
    | before, q => Responder.uneventful.answer before q

theorem answer_of_replying {r : Mail.Reply} {p : Program Value} {before : List Exchange}
    {post : Mail.Post} {answer : Except Mail.TransportFault Mail.Reply}
    (h : (⟨.post post, answer⟩ : Exchange) ∈ (p.dialogue (.replying r) before).1) :
    answer = .ok r := by
  have hanswers : ∀ e ∈ (p.dialogue (.replying r) before).1, ∀ post answer,
      e = (⟨.post post, answer⟩ : Exchange) → answer = .ok r := by
    refine (ensures_allowed p).dialogue ?_ before
    intro before q post answer he
    cases q <;> cases he
    rfl
  exact hanswers _ h post answer rfl

namespace Mailer

variable {m : Mailer} {target : Url} {r : Mail.Reply}

/-- How an attempt to deliver a message ends when the delivery service has replied. -/
def endingOf (target : Url) (r : Mail.Reply) : Except Failure Value :=
  match replyFault? target r with
  | some f => .error (.mail f)
  | none =>
    match r.content with
    | .error f => .error (.mail f)
    | .ok content =>
      if r.isAccepted then .ok content.messageId
      else
        match r.detail content with
        | .error f => .error (.mail f)
        | .ok detail => .error (.undelivered (.refused detail))

/-- How an attempt to deliver a message ends when it has been posted. -/
def ending (target : Url) : Except Mail.TransportFault Mail.Reply → Except Failure Value
  | .error ⟨true, _⟩ => .error (.undelivered .timeout)
  | .error ⟨false, message⟩ => .error (.undelivered (.transport message))
  | .ok r => endingOf target r

/-- A reply is looked at with remarks alone, and the end is the one that it stands for. -/
theorem accept_ensures {allowed : Exchange → Prop} (hfault : replyFault? target r = none)
    (address : String) : (accept address r).Ensures allowed fun es o =>
      footprint es = {} ∧ o = outcomeOf (endingOf target r) := by
  unfold accept
  refine (contentOf_ensures r).bind ?_ ?_ ?_
  · rintro es content ⟨hes, ho⟩
    have hcontent : r.content = .ok content := by
      cases hread : r.content <;> simp [hread, Except.mapError, outcomeOf] at ho
      rw [ho]
    cases haccepted : r.isAccepted with
    | true =>
      have hend : endingOf target r = .ok content.messageId := by
        simp [endingOf, hfault, hcontent, haccepted]
      intro _ _
      exact ⟨by simp [hes, Exchange.footprint], by rw [hend]; rfl⟩
    | false =>
      show Ensures _ (orFault (r.detail content) >>= _) _
      unfold orFault
      cases hdetail : r.detail content with
      | error f =>
        have hend : endingOf target r = .error (.mail f) := by
          simp [endingOf, hfault, hcontent, haccepted, hdetail]
        exact ⟨by simp [hes], by rw [hend]; rfl⟩
      | ok detail =>
        have hend : endingOf target r = .error (.undelivered (.refused detail)) := by
          simp [endingOf, hfault, hcontent, haccepted, hdetail]
        intro _ _
        exact ⟨by simp [hes, Exchange.footprint], by rw [hend]; rfl⟩
  · rintro es f ⟨hes, ho⟩
    refine ⟨hes, ?_⟩
    cases hread : r.content with
    | ok content => simp [hread, Except.mapError, outcomeOf] at ho
    | error f' =>
      rw [hread] at ho
      cases ho
      simp only [endingOf, hfault, hread]
      rfl
  · rintro es ⟨-, ho⟩
    exact absurd ho.symm (outcomeOf_ne_cancelled _)

/-- A post ends as its answer says, and nothing is left behind after it. -/
theorem post_ends {allowed : Exchange → Prop} (m : Mailer) (target : Url)
    (address subject body : String) :
    (m.post target address subject body).Ensures allowed fun es o => ∃ answer later,
      es = ⟨.post (m.letter target address subject body), answer⟩ :: later ∧
        footprint later = {} ∧ o = outcomeOf (ending target answer) := by
  intro answer _
  have hpost : ∀ {p : Program Value},
      p.Ensures allowed (fun es o => footprint es = {} ∧ o = outcomeOf (ending target answer)) →
        p.Ensures allowed fun es o => ∃ answer' later,
          (⟨.post (m.letter target address subject body), answer⟩ :: es : List Exchange) =
              ⟨.post (m.letter target address subject body), answer'⟩ :: later ∧
            footprint later = {} ∧ o = outcomeOf (ending target answer') :=
    fun hp => hp.mono fun es o ⟨hes, ho⟩ => ⟨answer, es, rfl, hes, ho⟩
  rcases answer with ⟨_ | _, _⟩ | reply
  · exact hpost fun _ _ => ⟨rfl, rfl⟩
  · exact hpost fun _ _ => ⟨rfl, rfl⟩
  · simp only
    cases hfault : replyFault? target reply with
    | some f => exact hpost ⟨rfl, by simp only [ending, endingOf, hfault]; rfl⟩
    | none => exact hpost (accept_ensures hfault address)

/-- **A delivery is one post.** An attempt at an address that can be reached posts the message once
and nothing else, and its end is the one that the answer stands for. -/
theorem send_ends {allowed : Exchange → Prop} (htarget : m.target = .ok target)
    (address subject body : String) :
    (m.send address subject body).Ensures allowed fun es o => ∃ answer earlier later,
      es = earlier ++ ⟨.post (m.letter target address subject body), answer⟩ :: later ∧
        footprint earlier = {} ∧ footprint later = {} ∧ o = outcomeOf (ending target answer) := by
  have hmerged : (Url.parse m.url).bind Url.empty.merge = .ok target := htarget
  unfold send
  simp only [hmerged]
  intro _ _
  refine (post_ends m target address subject body).mono ?_
  rintro es o ⟨answer, later, rfl, hlater, ho⟩
  exact ⟨answer, [_], later, rfl, rfl, hlater, ho⟩

/-- An attempt with any responder is one post, and it ends as the answer says. -/
theorem send_dialogue (htarget : m.target = .ok target) (address subject body : String)
    (env : Responder) (before : List Exchange) :
    let attempt := (m.send address subject body).dialogue env before
    ∃ answer, (⟨.post (m.letter target address subject body), answer⟩ : Exchange) ∈ attempt.1 ∧
      (footprint attempt.1).posts = [m.letter target address subject body] ∧
      attempt.2 = outcomeOf (ending target answer) := by
  intro attempt
  have hends : (m.send address subject body).Ensures (fun _ => True) _ :=
    send_ends htarget address subject body
  obtain ⟨answer, earlier, later, hes, hearlier, hlater, ho⟩ :=
    hends.dialogue (fun before r => trivial) before
  refine ⟨answer, ?_, ?_, ho⟩
  · rw [hes]
    simp
  · rw [hes]
    simp [hearlier, hlater, Exchange.footprint]

/-- Which end a reply stands for: one that can be read is decided by its status. -/
theorem endingOf_of_isReadable (habsolute : target.isAbsolute = true) (h : r.IsReadable) :
    (r.isAccepted = true ∧ ∃ id, endingOf target r = .ok id) ∨
      (r.isAccepted = false ∧
        ∃ detail, endingOf target r = .error (.undelivered (.refused detail))) := by
  obtain ⟨hcontentType, content, hcontent, hdetail⟩ := Mail.Reply.isReadable_iff.1 h
  have hfault : replyFault? target r = none := by simp [replyFault?, hcontentType, habsolute]
  cases haccepted : r.isAccepted with
  | true => exact Or.inl ⟨rfl, content.messageId, by simp [endingOf, hfault, hcontent, haccepted]⟩
  | false =>
    obtain ⟨detail, heq⟩ := hdetail haccepted
    exact Or.inr ⟨rfl, detail, by simp [endingOf, hfault, hcontent, haccepted, heq]⟩

/-- A reply that cannot be read ends in a fault of its own. -/
theorem endingOf_of_not_isReadable (h : ¬ r.IsReadable) :
    ∃ f, endingOf target r = .error (.mail f) := by
  cases hfault : replyFault? target r with
  | some f => exact ⟨f, by simp [endingOf, hfault]⟩
  | none =>
    cases hcontent : r.content with
    | error f => exact ⟨f, by simp [endingOf, hfault, hcontent]⟩
    | ok content =>
      -- the reply is a refusal whose detail cannot be read, or else it could be read
      have hunread : ¬ (r.isAccepted = false → ∃ detail, r.detail content = .ok detail) := by
        intro hdetail
        refine h (Mail.Reply.isReadable_iff.2 ⟨?_, content, hcontent, hdetail⟩)
        cases hascii : r.contentType.bind Text.NotAscii.of? with
        | none => rfl
        | some d => simp [replyFault?, hascii] at hfault
      cases haccepted : r.isAccepted with
      | true => exact absurd (by simp [haccepted]) hunread
      | false =>
        cases hdetail : r.detail content with
        | ok detail => exact absurd (fun _ => ⟨detail, hdetail⟩) hunread
        | error f => exact ⟨f, by simp [endingOf, hfault, hcontent, haccepted, hdetail]⟩

/-- The message is reported as sent. -/
def IsSent (o : Outcome Value) : Prop := ∃ id, o = .done id

/-- The message is reported as one that could not be delivered. -/
def IsUndelivered (o : Outcome Value) : Prop := ∃ f, o = .failed f ∧ f.kind = .delivery

/-- The attempt ends in a failure that says nothing of the delivery. -/
def IsStranded (o : Outcome Value) : Prop := ∃ f, o = .failed f ∧ f.kind ≠ .delivery

/-- An attempt at a service that always gives the same reply ends as the reply says. -/
theorem send_replying (htarget : m.target = .ok target) (address subject body : String)
    (r : Mail.Reply) (before : List Exchange) :
    let attempt := (m.send address subject body).dialogue (.replying r) before
    (⟨.post (m.letter target address subject body), .ok r⟩ : Exchange) ∈ attempt.1 ∧
      attempt.2 = outcomeOf (endingOf target r) := by
  intro attempt
  obtain ⟨answer, hposted, -, ho⟩ :=
    send_dialogue htarget address subject body (.replying r) before
  obtain rfl : answer = .ok r := answer_of_replying hposted
  exact ⟨hposted, ho⟩

/-- A service that accepts no more messages. -/
def closed : Mail.Reply := ⟨503, none, "closed".toUTF8.toList⟩

/-- A service that is to be asked elsewhere. -/
def moved : Mail.Reply := ⟨302, none, "moved".toUTF8.toList⟩

/-- A mailer of a service on the same machine. -/
def localMailer : Mailer := ⟨"http://localhost:8019/emails/send", "noreply@automation.local"⟩

theorem localMailer_target : ∃ target, localMailer.target = .ok target ∧
    target.isAbsolute = true := by
  have h : localMailer.target.toOption.any Url.isAbsolute = true := by decide +kernel
  cases htarget : localMailer.target with
  | ok target => exact ⟨target, rfl, by simpa [htarget, Except.toOption] using h⟩
  | error d => simp [htarget, Except.toOption] at h

end Mailer

end Automation
