import FederatedLogin.Proofs.Verification.Exchange

/-!
# What an exchange reports

An alarm is an event of level warning or error, a notice one of level info.  Every exchange that
fails raises one alarm, which names the principal, and one that succeeds stays quiet.  Only trouble
that lies outside the family of failures passes without an alarm.
-/

namespace FederatedLogin

open FederatedLogin.Text

namespace Event

/-- Whether an event is of level warning or error. -/
def isAlarm (event : Event) : Bool :=
  match event.level with
  | .warning | .error => true
  | .debug | .info => false

/-- Whether an event is of level info. -/
def isNotice (event : Event) : Bool :=
  match event.level with
  | .info => true
  | .debug | .warning | .error => false

/-- Events that are neither alarms nor notices. -/
structure Quiet (events : List Event) : Prop where
  alarms : events.filter isAlarm = []
  notices : events.filter isNotice = []

/-- Events with one alarm, which names the principal, and no notice. -/
structure Alarmed (principal : Principal) (events : List Event) : Prop where
  alarm : ∃ event, events.filter isAlarm = [event] ∧
    ("principal", FieldValue.principal principal) ∈ event.fields
  notices : events.filter isNotice = []

/-- Events with one notice, which names the principal and a uid, and no alarm. -/
structure Noticed (principal : Principal) (uid : CodeString) (events : List Event) : Prop where
  notice : ∃ event, events.filter isNotice = [event] ∧
    ("principal", FieldValue.principal principal) ∈ event.fields ∧
    ("uid", FieldValue.text uid) ∈ event.fields
  alarms : events.filter isAlarm = []

variable {first second : List Event} {principal : Principal} {uid : CodeString}

/-- An alarm is no notice. -/
theorem isNotice_of_isAlarm {event : Event} (alarm : event.isAlarm) : event.isNotice = false := by
  cases event <;> first | rfl | cases alarm

theorem Alarmed.single {event : Event} (alarm : event.isAlarm)
    (named : ("principal", FieldValue.principal principal) ∈ event.fields) :
    Alarmed principal [event] := by
  constructor
  · exact ⟨event, List.filter_cons_of_pos alarm, named⟩
  · rw [List.filter_cons_of_neg (by simp [isNotice_of_isAlarm alarm]), List.filter_nil]

theorem Noticed.single {event : Event} (notice : event.isNotice)
    (named : ("principal", FieldValue.principal principal) ∈ event.fields)
    (identified : ("uid", FieldValue.text uid) ∈ event.fields) :
    Noticed principal uid [event] := by
  have noAlarm : ¬ event.isAlarm := by
    intro alarm
    rw [isNotice_of_isAlarm alarm] at notice
    cases notice
  constructor
  · exact ⟨event, List.filter_cons_of_pos notice, named, identified⟩
  · rw [List.filter_cons_of_neg noAlarm, List.filter_nil]

theorem Quiet.append (before : Quiet first) (after : Quiet second) : Quiet (first ++ second) := by
  constructor
  · rw [List.filter_append, before.alarms, after.alarms, List.append_nil]
  · rw [List.filter_append, before.notices, after.notices, List.append_nil]

theorem Quiet.append_alarmed (before : Quiet first) (after : Alarmed principal second) :
    Alarmed principal (first ++ second) := by
  constructor
  · rw [List.filter_append, before.alarms, List.nil_append]
    exact after.alarm
  · rw [List.filter_append, before.notices, List.nil_append]
    exact after.notices

theorem Quiet.append_noticed (before : Quiet first) (after : Noticed principal uid second) :
    Noticed principal uid (first ++ second) := by
  constructor
  · rw [List.filter_append, before.notices, List.nil_append]
    exact after.notice
  · rw [List.filter_append, before.alarms, List.nil_append]
    exact after.alarms

end Event

/-- A result with the events on the way to it: a failure of some kind with an alarm, or a value with
the events that belong to success. -/
inductive Reported {α : Type} (principal : Principal) (fails : Failure → Prop)
    (succeeds : List Event → Prop) : Except Failure α → List Event → Prop where
  | failed {failure : Failure} {events : List Event} (kind : fails failure)
      (alarmed : Event.Alarmed principal events) :
      Reported principal fails succeeds (.error failure) events
  | succeeded {value : α} {events : List Event} (settled : succeeds events) :
      Reported principal fails succeeds (.ok value) events

namespace Reported

variable {α : Type} {principal : Principal} {fails causes : Failure → Prop}
  {succeeds ends : List Event → Prop} {result : Except Failure α} {first events : List Event}

theorem mono (reported : Reported principal fails succeeds result events)
    (caused : ∀ failure, fails failure → causes failure) :
    Reported principal causes succeeds result events := by
  cases reported with
  | failed kind alarmed => exact .failed (caused _ kind) alarmed
  | succeeded settled => exact .succeeded settled

/-- What is quiet may come before. -/
theorem after (quiet : Event.Quiet first)
    (reported : Reported principal fails succeeds result events)
    (settled : ∀ events, succeeds events → ends (first ++ events)) :
    Reported principal fails ends result (first ++ events) := by
  cases reported with
  | failed kind alarmed => exact .failed kind (quiet.append_alarmed alarmed)
  | succeeded done => exact .succeeded (settled events done)

end Reported

/-- Whether a failure is one of the service or of its reply. -/
def Failure.isOfService : Failure → Bool
  | .transport _ | .serviceUnavailable _ _ | .protocol _ | .unauthenticated _ => true
  | _ => false

namespace Verification

open Event

variable {principal : Principal}

theorem reported_judgePayload (principal : Principal) (status : Int) (payload : Json.Value) :
    Reported principal (Failure.isOfService · = true) Quiet
      (judgePayload principal status payload).result
      (judgePayload principal status payload).events := by
  rw [judgePayload]
  split
  · exact .failed rfl (.single rfl List.mem_cons_self)
  · split
    · exact .succeeded ⟨rfl, rfl⟩
    · exact .failed rfl (.single rfl List.mem_cons_self)

variable [Platform]

theorem reported_judge (principal : Principal) (status : Int) (body : List UInt8) :
    Reported principal (Failure.isOfService · = true) Quiet
      (judge principal status body).result (judge principal status body).events := by
  rw [judge]
  split
  · exact .failed rfl (.single rfl List.mem_cons_self)
  · split
    · exact .failed rfl (.single rfl List.mem_cons_self)
    · split
      · exact .failed rfl (.single rfl List.mem_cons_self)
      · exact reported_judgePayload principal status _

/-- Whether nothing but the request itself fails. -/
def Reply.isPlain : Reply → Bool
  | .response .. | .requestFailed .. => true
  | .disturbed .. => false

/-- An exchange with a service is reported, if nothing but the request itself fails. -/
theorem reported_exchange {isAbsolute : Bool} {reply : Reply}
    (answerable : reply.starts → isAbsolute) (plain : reply.isPlain) (url : String)
    (principal : Principal) :
    Reported principal (Failure.isOfService · = true) Quiet
      (exchange url isAbsolute principal reply).result
      (exchange url isAbsolute principal reply).events := by
  have begun : (reply.starts && !isAbsolute) = false := by
    cases started : reply.starts with
    | false => rfl
    | true => rw [answerable started, Bool.not_true, Bool.and_false]
  simp only [exchange, begun, Bool.false_eq_true, if_false]
  cases reply with
  | response status body => exact reported_judge principal status body
  | requestFailed moment kind message => exact .failed rfl (.single rfl List.mem_cons_self)
  | disturbed moment kind message => cases plain

theorem reported_verify {base : String} {address : Address} {reply : Reply}
    (isTarget : target? base = .ok address) (answerable : reply.starts → address.isAbsolute)
    (plain : reply.isPlain) (credential : Credential) :
    Reported credential.principal (Failure.isOfService · = true) Quiet
      (verify base credential reply).result (verify base credential reply).events := by
  rw [verify_of_target isTarget]
  exact reported_exchange answerable plain _ credential.principal

end Verification

end FederatedLogin
