import Kivou.CampaignReservations

set_option autoImplicit false

/-! The send of step 1 is judged twice, by the instants of its window and by the local date and
time, which then give the instant that step 2 is due at. -/
namespace Kivou.Campaigns
open PythonValues

inductive SendAuthorization where
 | authorized
 | unauthorized
 deriving DecidableEq

def classifyEmailSent (step occurredAt:ℤ)(dueAt:Option ℤ)(deadline:ℤ) :
 SendAuthorization × Option String:=
 if step=1 then
  if dueAt.any (occurredAt < ·)||deadline≤occurredAt then
   (.unauthorized,some "STEP1_SENT_OUTSIDE_AUTHORIZED_WINDOW")
  else (.authorized,none)
 else
  match dueAt with
  | none=>(.unauthorized,some "PROVIDER_STEP_UNRESOLVED")
  | some due =>
   if step≠2 then (.unauthorized,some "PROVIDER_STEP_UNRESOLVED")
   else if occurredAt<due then (.unauthorized,some "STEP2_SENT_BEFORE_AUTHORIZED_WINDOW")
   else if deadline≤occurredAt then (.unauthorized,some "STEP2_SENT_OUTSIDE_AUTHORIZED_WINDOW")
   else (.authorized,none)

/-- `dt.datetime.combine`: its date and time, and the instant that the zone gives them. -/
structure Combined where
 (date time instant:ℤ)

def Zone.combine (zone:Zone)(date time:ℤ):Combined:=⟨date,time,zone.instant date time⟩

def instantOf (d:DateTime):ℤ:=d.toUtc.wall

/-- 09:00 where the fourth day is on a week-end, else the time of step 1. -/
def dueTime (localSent:ℤ × ℤ):ℤ:=
 if 5≤weekday (localSent.1+4) then hours 9 else localSent.2

variable (zones:Zones)

/-- A refusal is a `SequenceTimingInvariantViolation`. -/
def materializeStep2Timing (window:SequenceWindow)(step1SentAt:DateTime) :
 Except String Combined:=
 if !step1SentAt.aware then .error "step_1_sent_at must be timezone-aware"
 else
  let zone:=zones.of window.timezone
  let localSent:=zone.clock (instantOf step1SentAt)
  if localSent.1≠window.step1ExecutionDate then .error "Step 1 was not sent on its authorized date"
  else if ¬(hours 9≤localSent.2 ∧ localSent.2<hours 17) then
   .error "Step 1 was not sent inside its authorized window"
  else
   let due:=zone.combine window.step2ExecutionDate (dueTime localSent)
   if due.date≠window.step2ExecutionDate ∨ window.step2AuthorizationDeadline≤due.instant then
    .error "materialized Step 2 timing escaped authorization"
   else .ok due

/-- What `_email_sent` answers to an event of step 1 and writes of the sequence; the
state is none where the row is left as it is. -/
structure StepOneAnswer where
 incident:Option String
 sequenceState:Option SequenceState
 step2DueAt:Option ℤ

def stepOneStart (window:SequenceWindow):ℤ:=
 (zones.of window.timezone).instant window.step1ExecutionDate (hours 9)

def emailSent (window:SequenceWindow)(executionState:ExecutionState)(step1SentAt:Option ℤ)
 (timestamp:DateTime):StepOneAnswer:=
 match step1SentAt with
 | some recorded =>
  if recorded=instantOf timestamp then ⟨none,none,none⟩
  else ⟨some "CONFLICTING_STEP1_TRANSPORT_TRUTH",some .stopped,none⟩
 | none =>
  let incident:=
   match executionState with
   | .stopped | .failed=>some "UNEXPECTED_EMAIL_SENT_AFTER_STOP"
   | .queued=>(classifyEmailSent 1 (instantOf timestamp) (some (stepOneStart zones window))
     window.step1AuthorizationDeadline).2
   | _=>some "STEP1_SENT_WITHOUT_QUEUE_AUTHORIZATION"
  match incident with
  | some incident=>⟨some incident,some .stopped,none⟩
  | none =>
   match materializeStep2Timing zones window timestamp with
   | .error _=>⟨some "SEQUENCE_TIMING_INVARIANT_VIOLATION",some .stopped,none⟩
   | .ok due=>⟨none,some .waitingStep2,some due.instant⟩

/-- One offset holds from 09:00 to 17:00 of `date`: these times pass evenly, and no
other instant reads as one of them. -/
structure Zone.Steady (zone:Zone)(date:ℤ):Prop where
 reads:∀time,hours 9≤time→time≤hours 17→zone.clock (zone.instant date time)=(date,time)
 passes:∀time,hours 9≤time→time≤hours 17 →
  zone.instant date time=zone.instant date (hours 9)+(time-hours 9)
 only:∀t time,hours 9≤time→time≤hours 17→zone.clock t=(date,time) →t=zone.instant date time

lemma le_nextWeekday (date:ℤ):date≤nextWeekday date:=by
 unfold nextWeekday
 split
 · omega
 · split <;> omega

lemma dueTime_within {localSent:ℤ × ℤ}(late:hours 9≤localSent.2)
 (early:localSent.2<hours 17):hours 9≤dueTime localSent ∧ dueTime localSent<hours 17:=by
 unfold dueTime
 split
 · decide
 · exact ⟨late,early⟩

variable {date:ℤ}{window:SequenceWindow}{sent:DateTime}

/-- The instants of the window are those whose local time is inside it. -/
lemma Zone.Steady.within_iff {zone:Zone}(steady:zone.Steady date){t:ℤ} :
 zone.instant date (hours 9)≤t ∧ t<zone.instant date (hours 17) ↔
  (zone.clock t).1=date ∧ hours 9≤(zone.clock t).2 ∧ (zone.clock t).2<hours 17:=by
 have span:hours 9≤hours 17:=by decide
 have closes:=steady.passes (hours 17) span le_rfl
 constructor
 · rintro ⟨after,before⟩
   -- the time of the day that has passed since 09:00
   have late:hours 9≤hours 9+(t-zone.instant date (hours 9)):=by omega
   have early:hours 9+(t-zone.instant date (hours 9))<hours 17:=by omega
   have passed:=steady.passes _ late early.le
   have read:=steady.reads _ late early.le
   have here:zone.instant date (hours 9+(t-zone.instant date (hours 9)))=t:=by omega
   rw[here] at read
   rw[read]
   exact ⟨rfl,late,early⟩
 · rintro ⟨day,late,early⟩
   have read:zone.clock t=(date,(zone.clock t).2):=Prod.ext day rfl
   have is:=steady.only t _ late early.le read
   have passed:=steady.passes _ late early.le
   omega

lemma sequenceWindow_ok {jurisdiction:Country}
 (h:sequenceWindow zones jurisdiction date=.ok window) :
 window=⟨jurisdiction,date,(zones.of jurisdiction).instant date (hours 17),
  nextWeekday (date+4),(zones.of jurisdiction).instant (nextWeekday (date+4)) (hours 17)⟩:=by
 unfold sequenceWindow at h
 split at h
 · cases h
 · cases h
   rfl

lemma classify_step1 {occurredAt start deadline:ℤ} :
 (classifyEmailSent 1 occurredAt (some start) deadline).2=none ↔
  start≤occurredAt ∧ occurredAt<deadline:=by
 simp only[classifyEmailSent,↓reduceIte,Option.any_some]
 split
 · rename_i outside
   simp only[Bool.or_eq_true,decide_eq_true_eq] at outside
   simp only[reduceCtorEq,false_iff]
   omega
 · rename_i inside
   simp only[Bool.or_eq_true,decide_eq_true_eq] at inside
   simp only[true_iff]
   omega

lemma classify_authorized {step occurredAt deadline:ℤ}{due:Option ℤ} :
 (classifyEmailSent step occurredAt due deadline).1=.authorized ↔
  (classifyEmailSent step occurredAt due deadline).2=none:=by
 unfold classifyEmailSent
 repeat' split
 all_goals simp

/-- The time that step 2 is due at is between 09:00 and 17:00 of its date. -/
lemma materialize_ok {due:Combined} (h:materializeStep2Timing zones window sent=.ok due) :
 let localSent:=(zones.of window.timezone).clock (instantOf sent)
 localSent.1=window.step1ExecutionDate ∧ hours 9≤localSent.2 ∧ localSent.2<hours 17 ∧
  due=(zones.of window.timezone).combine window.step2ExecutionDate due.time ∧
  hours 9≤due.time ∧ due.time<hours 17:=by
 unfold materializeStep2Timing at h
 split at h
 · cases h
 · simp only[ne_eq] at h
   split at h
   · cases h
   · rename_i day
     split at h
     · cases h
     · rename_i inside
       split at h
       · cases h
       · cases h
         obtain ⟨late,early⟩:=not_not.mp inside
         exact ⟨not_not.mp day,late,early,rfl,dueTime_within late early⟩

lemma materialize_of_within (aware:sent.aware=true)
 (day:((zones.of window.timezone).clock (instantOf sent)).1=window.step1ExecutionDate)
 (late:hours 9≤((zones.of window.timezone).clock (instantOf sent)).2)
 (early:((zones.of window.timezone).clock (instantOf sent)).2<hours 17)
 (open':∀time,hours 9≤time→time<hours 17 →
  (zones.of window.timezone).instant window.step2ExecutionDate time <
   window.step2AuthorizationDeadline) :
 ∃due,materializeStep2Timing zones window sent=.ok due:=by
 obtain ⟨after,before⟩:=dueTime_within late early
 have sooner:=open' _ after before
 refine ⟨(zones.of window.timezone).combine window.step2ExecutionDate
  (dueTime ((zones.of window.timezone).clock (instantOf sent))),?_⟩
 rw[materializeStep2Timing,aware,Bool.not_true,if_neg Bool.false_ne_true]
 simp only[ne_eq,day,not_true_eq_false,if_false,late,early,and_self,Zone.combine,false_or]
 rw[if_neg (not_le.mpr sooner)]

/-- Both readings of the window of step 1 agree, and step 2 is due inside its own. -/
theorem sequence_windows_agree {jurisdiction:Country}
 (planned:sequenceWindow zones jurisdiction date=.ok window)
 (first:(zones.of jurisdiction).Steady date)
 (second:(zones.of jurisdiction).Steady (nextWeekday (date+4)))
 (aware:sent.aware=true) :
 ((classifyEmailSent 1 (instantOf sent) (some (stepOneStart zones window))
   window.step1AuthorizationDeadline).1=.authorized ↔
  ∃due,materializeStep2Timing zones window sent=.ok due) ∧
 (∀executionState step1SentAt,(emailSent zones window executionState step1SentAt sent).incident ≠
  some "SEQUENCE_TIMING_INVARIANT_VIOLATION") ∧
 ∀due,materializeStep2Timing zones window sent=.ok due →
  ((zones.of jurisdiction).clock due.instant).1=window.step2ExecutionDate ∧
  ((zones.of jurisdiction).clock (instantOf sent)).1+4≤window.step2ExecutionDate ∧
  due.instant<window.step2AuthorizationDeadline ∧
  ∀t,due.instant≤t→t<window.step2AuthorizationDeadline →
   classifyEmailSent 2 t (some due.instant) window.step2AuthorizationDeadline =
    (.authorized,none):=by
 obtain rfl:=sequenceWindow_ok zones planned
 have open':∀time,hours 9≤time→time<hours 17 →
   (zones.of jurisdiction).instant (nextWeekday (date+4)) time <
    (zones.of jurisdiction).instant (nextWeekday (date+4)) (hours 17):=by
  intro time late early
  have passed:=second.passes time late early.le
  have closes:=second.passes (hours 17) (by decide) le_rfl
  omega
 have agree:(classifyEmailSent 1 (instantOf sent) (some ((zones.of jurisdiction).instant date
   (hours 9))) ((zones.of jurisdiction).instant date (hours 17))).2=none ↔
   ∃due,materializeStep2Timing zones ⟨jurisdiction,date,
    (zones.of jurisdiction).instant date (hours 17),nextWeekday (date+4),
    (zones.of jurisdiction).instant (nextWeekday (date+4)) (hours 17)⟩ sent=.ok due:=by
  rw[classify_step1,first.within_iff]
  constructor
  · rintro ⟨day,late,early⟩
    exact materialize_of_within zones aware day late early open'
  · rintro ⟨due,accepted⟩
    obtain ⟨day,late,early,-⟩:=materialize_ok zones accepted
    exact ⟨day,late,early⟩
 refine ⟨classify_authorized.trans agree,fun executionState step1SentAt=>?_,fun due accepted=>?_⟩
 · cases step1SentAt with
   | some recorded =>
    simp only[emailSent]
    split <;> simp
   | none =>
    cases executionState with
    | queued =>
     simp only[emailSent,stepOneStart]
     split
     · rename_i incident outside
       simp only[classifyEmailSent,↓reduceIte] at outside
       split at outside
       · cases outside
         simp
       · cases outside
     · rename_i inside
       obtain ⟨due,accepted⟩:=agree.mp inside
       simp only[accepted]
       simp
    | _=>simp[emailSent]
 · obtain ⟨day,-,-,combined,late,early⟩:=materialize_ok zones accepted
   have sooner:=open' due.time late early
   have is:due.instant=(zones.of jurisdiction).instant (nextWeekday (date+4)) due.time:=
    congrArg Combined.instant combined
   refine ⟨?_,?_,by rw[is];exact sooner,fun t after before=>?_⟩
   · rw[is,second.reads due.time late early.le]
   · rw[day]
     exact le_nextWeekday (date+4)
   · simp[classifyEmailSent,not_lt.mpr after,not_le.mpr before]

lemma fixedZone_steady (offset date:ℤ):(fixedZone offset).Steady date:=by
 have day:days 1=86400000000:=rfl
 have dates:days date=date*86400000000:=by unfold days hours seconds;omega
 have nine:hours 9=32400000000:=rfl
 have seventeen:hours 17=61200000000:=rfl
 refine ⟨fun time late early=>?_,fun time late early=>?_,fun t time late early read=>?_⟩
 · simp only[fixedZone,day,dates]
   refine Prod.ext ?_ ?_ <;> omega
 · simp only[fixedZone]
   omega
 · simp only[fixedZone,day,dates,Prod.mk.injEq] at read ⊢
   omega

theorem sequence_windows_agree_in_winter : ∃due,materializeStep2Timing winterZones
  ⟨.ch,738890,days 738890+hours 16,738894,days 738894+hours 16⟩
  ⟨days 738890+hours 12,some (hours 1)⟩=.ok due ∧
  due.instant<days 738894+hours 16:=by
 have agree:=@sequence_windows_agree winterZones 738890 _ ⟨days 738890+hours 12,some (hours 1)⟩ .ch
  rfl (fixedZone_steady _ _) (fixedZone_steady _ _) rfl
 obtain ⟨due,accepted⟩:=agree.1.mp (by decide +kernel)
 exact ⟨due,accepted,(agree.2.2 due accepted).2.2.1⟩

end Kivou.Campaigns
