import Kivou.OperationalIncidents
import Kivou.Runs
import Mathlib.Data.List.Nodup

set_option autoImplicit false

/-! Of the first messages of a campaign, more than one in twenty came back: the breaker opens an
incident for the scope, which stays open until it is resolved. The rate is a quotient of 28 digits,
and the column of the incident keeps eight decimals of it. -/
namespace Kivou.BounceBreaker
open PythonValues Decimals PolicyControls OperationalIncidents

structure BounceObservation where
 scope:BreakerScope
 (authoritativeStep1Members bouncedStep1Members:List SafeRef)
 sourceStateRef:SafeRef
 observedAt:ℤ
 (campaignRef mailboxRef wedge:Option SafeRef)
 country:Option Country
 sentBound:authoritativeStep1Members.length≤100000
 bouncedBound:bouncedStep1Members.length≤100000
 sentUnique:authoritativeStep1Members.Nodup
 bouncedUnique:bouncedStep1Members.Nodup
 bouncedSent:bouncedStep1Members ⊆ authoritativeStep1Members

namespace BounceObservation

def sentCount (o:BounceObservation):ℕ:=o.authoritativeStep1Members.length
def bouncedCount (o:BounceObservation):ℕ:=o.bouncedStep1Members.length

lemma bouncedCount_le (o:BounceObservation):o.bouncedCount≤o.sentCount:=
 (o.bouncedUnique.subperm o.bouncedSent).length_le

end BounceObservation

def bounceBreakerVersion:SafeRef:=⟨"step1-bounce-breaker-v1",rfl⟩
def bounceMinimumSample:ℕ:=20
def bounceMaximumRate:ℚ:=1/20

/-- The quotient of two `Decimal`s has 28 significant digits. -/
def decimalPrecision:ℕ:=28

def BounceObservation.rate (o:BounceObservation):ℚ:=
 significant decimalPrecision (o.bouncedCount/o.sentCount)

def BounceObservation.trigger (o:BounceObservation):Trigger where
 incidentType:=.bounceRate
 severity:=.high
 scope:=o.scope
 sourceStateRef:=o.sourceStateRef
 triggeredAt:=o.observedAt
 reasonCodes:=["STEP1_BOUNCE_RATE_ABOVE_LIMIT"]
 observedValue:=some o.rate
 thresholdValue:=some bounceMaximumRate
 metricVersion:=some bounceBreakerVersion
 campaignRef:=o.campaignRef
 mailboxRef:=o.mailboxRef
 wedge:=o.wedge
 country:=o.country
 humanReviewRequired:=true
 pauseRequired:=true
 policyControlBefore:=none
 policyControlAfter:=none

variable (digests:Digests)

def observeBounces (db:Db)(o:BounceObservation):Except Failure (Option SaveResult) × Db:=
 if o.sentCount<bounceMinimumSample then (.ok none,db)
 else if o.rate≤bounceMaximumRate then (.ok none,db)
 else
  match o.trigger.checked with
  | .error failure=>(.error failure,db)
  | .ok trigger=>((openIncident digests db trigger).1.map some,(openIncident digests db trigger).2)

def BounceObservation.again (o:BounceObservation)(at':ℤ):BounceObservation:={o with observedAt:=at'}

def Unrecorded (db:Db)(o:BounceObservation):Prop:=
 ∀r∈db.incidents,r.sourceStateRef≠o.sourceStateRef.text ∧
  r.triggerFingerprint≠o.trigger.triggerFingerprint digests ∧
  r.incidentRef≠o.trigger.incidentRef digests

/-- The observation opens an incident of high severity and with it the breaker,
which stays open, and answers the observation again, over every run of the
store that does not resolve the incident. -/
def Opens (db:Db)(o:BounceObservation):Prop:=
 ∃row db',observeBounces digests db o=(.ok (some ⟨row,false⟩),db') ∧
  row∈db'.incidents ∧ row.severity=.high ∧ row.state≠.resolved ∧
  ∀ops:List Operation,(∀at',.resolve row.incidentRef at'∉ops) →
   hasOpenBreaker (ops.foldl (step digests) db') o.scope=true ∧
   ∀at',∃row',observeBounces digests (ops.foldl (step digests) db') (o.again at') =
    (.ok (some ⟨row',true⟩),ops.foldl (step digests) db')

/-- The rate has eight decimals, the references are internal ones that their
columns take, and the campaign is known. -/
structure Recordable (db:Db)(o:BounceObservation):Prop where
 eightDecimals:o.sentCount ∣ o.bouncedCount*10^8
 internal:isInternalRef o.sourceStateRef.text=true ∧ isInternal o.campaignRef=true ∧
  isInternal o.mailboxRef=true ∧ isInternal o.wedge=true
 fits:fitsColumn 256 o.scope.scopeRef.text=true ∧ fitsColumn 256 o.sourceStateRef.text=true ∧
  (∀c∈o.campaignRef,fitsColumn 64 c.text=true) ∧
  (∀m∈o.mailboxRef,fitsColumn 100 m.text=true) ∧ ∀w∈o.wedge,fitsColumn 100 w.text=true
 known:∀c∈o.campaignRef,c.text∈db.campaigns

section
variable {b n:ℕ}

lemma quotient_close (less:b≤n)(pos:0<n) :
  |(b/n:ℚ)-significant decimalPrecision (b/n)| ≤ unit 27/2:=by
 have whole:(b:ℚ)≤n:=by exact_mod_cast less
 have positive:(0:ℚ)<n:=by exact_mod_cast pos
 have nonneg:(0:ℚ)≤b/n:=by positivity
 have small:(b/n:ℚ)<10^1:=by
  calc (b/n:ℚ)≤1:=div_le_one_of_le₀ whole positive.le
   _<10^1:=by norm_num
 have below:=le_significant_add (d:=decimalPrecision) nonneg small (by decide)
 have above:=significant_le_add (d:=decimalPrecision) nonneg small (by decide)
 change (b/n:ℚ)≤_+unit 27/2 at below
 change _≤(b/n:ℚ)+unit 27/2 at above
 rw[abs_le]
 constructor <;> linarith

lemma roundTo_quotient (less:b≤n)(pos:0<n)(bound:n≤100000) :
 roundTo 8 (significant decimalPrecision (b/n))=significant decimalPrecision (b/n) ↔ n ∣ b*10^8:=by
 have positive:(0:ℚ)<n:=by exact_mod_cast pos
 constructor
 · intro kept
   obtain ⟨k,scaled⟩:=kept ▸ onScale_roundTo 8 (significant decimalPrecision (b/n))
   have close:=quotient_close less pos
   rw[scaled] at close
   -- The numerators of the two differ by less than one.
   have apart:|((b*10^8-n*k:ℤ):ℚ)| < 1:=by
    have numerators:((b*10^8-n*k:ℤ):ℚ)=(n*10^8)*(b/n-k*unit 8):=by
     push_cast
     have whole:(k:ℚ)*unit 8*10^8=k:=by rw[mul_assoc,unit_mul,mul_one]
     have canceled:(n:ℚ)*(b/n)=b:=mul_div_cancel₀ _ positive.ne'
     calc (b:ℚ)*10^8-n*k=n*(b/n)*10^8-n*(k*unit 8*10^8):=by
           rw[whole,canceled]
      _=n*10^8*(b/n-k*unit 8):=by ring
    have factor:(n*10^8:ℚ)≤10^13:=by
     have:(n:ℚ)≤100000:=by exact_mod_cast bound
     linarith
    rw[numerators,abs_mul,abs_of_pos (by positivity)]
    calc (n*10^8:ℚ) * |(b/n:ℚ)-k*unit 8| ≤ 10^13*(unit 27/2):=
       mul_le_mul factor close (abs_nonneg _) (by norm_num)
     _<1:=by norm_num [unit]
   have equal:(b*10^8-n*k:ℤ)=0:=by
    apply Int.abs_lt_one_iff.mp
    exact_mod_cast apart
   have divides:(n:ℤ) ∣ ((b*10^8:ℕ):ℤ):=⟨k,by push_cast;linarith⟩
   exact_mod_cast divides
 · rintro ⟨k,divided⟩
   have scaled:(b/n:ℚ)=k*unit 8:=by
    have product:(b:ℚ)*10^8=n*k:=by exact_mod_cast divided
    have whole:(b:ℚ)=n*k*unit 8:=by
     calc (b:ℚ)=b*10^8*unit 8:=by rw[mul_assoc,mul_comm (10^8),unit_mul,mul_one]
      _=n*k*unit 8:=by rw[product]
    rw[whole]
    field_simp
   have onScale:OnScale 8 (b/n:ℚ):=⟨k,by rw[scaled];norm_cast⟩
   have whole:(b:ℚ)≤n:=by exact_mod_cast less
   have exact':significant decimalPrecision (b/n)=(b/n:ℚ):=by
    apply significant_eq_self (m:=1) (by positivity) _ onScale (by decide)
    calc (b/n:ℚ)≤1:=div_le_one_of_le₀ whole positive.le
     _<10^1:=by norm_num
   rw[exact']
   exact roundTo_eq_self onScale

lemma quotient_high (less:b≤n)(bound:n≤100000)(high:n<20*b) :
 bounceMaximumRate<significant decimalPrecision (b/n):=by
 have pos:0<n:=by omega
 have positive:(0:ℚ)<n:=by exact_mod_cast pos
 have close:=(abs_le.mp (quotient_close less pos)).2
 have gap:bounceMaximumRate+1/(20*n)≤(b/n:ℚ):=by
  have count:(n:ℚ)+1≤20*b:=by exact_mod_cast high
  calc bounceMaximumRate+1/(20*n)=(n+1)/(20*n):=by
        unfold bounceMaximumRate
        field_simp
   _≤(20*b)/(20*n):=by gcongr
   _=b/n:=by field_simp
 have room:(1:ℚ)/(20*100000)≤1/(20*n):=by
  have:(n:ℚ)≤100000:=by exact_mod_cast bound
  gcongr
 have tiny:unit 27/2<(1:ℚ)/(20*100000):=by norm_num [unit]
 linarith

lemma numeric_quotient (less:b≤n)(pos:0<n) : numeric 24 8 (significant decimalPrecision (b/n)) =
  some (roundTo 8 (significant decimalPrecision (b/n))):=by
 have close:=abs_le.mp (quotient_close less pos)
 have whole:(b:ℚ)≤n:=by exact_mod_cast less
 have positive:(0:ℚ)<n:=by exact_mod_cast pos
 have small:(b/n:ℚ)≤1:=div_le_one_of_le₀ whole positive.le
 have tiny:unit 27/2<(1:ℚ):=by norm_num [unit]
 have nonneg:0 ≤ significant decimalPrecision (b/n:ℚ):=significant_nonneg (by positivity)
 have above:roundTo 8 (significant decimalPrecision (b/n:ℚ))≤2:=by
  apply roundTo_le nonneg
  · exact ⟨200000000,by norm_num [unit]⟩
  · linarith
 have fits:|roundTo 8 (significant decimalPrecision (b/n:ℚ))| < 10^(24-8):=by
  rw[abs_of_nonneg (roundTo_nonneg nonneg)]
  norm_num
  linarith
 rw[numeric,if_pos fits]

end

variable {digests:Digests}{db:Db}{o:BounceObservation}

lemma trigger_accepted : o.trigger.accepted=true ↔ isInternalRef o.sourceStateRef.text=true ∧
  isInternal o.campaignRef=true ∧ isInternal o.mailboxRef=true ∧ isInternal o.wedge=true:=by
 have codes:(["STEP1_BOUNCE_RATE_ABOVE_LIMIT"]:List String).all isSafeCode=true:=rfl
 simp only[Trigger.accepted,BounceObservation.trigger,codes,List.length_singleton,le_refl,
  decide_true,Bool.true_and,Nat.one_le_ofNat,Bool.and_eq_true,and_assoc]

lemma values_fits : (o.trigger.values digests).fits=true ↔
  fitsColumn 256 o.scope.scopeRef.text=true ∧ fitsColumn 256 o.sourceStateRef.text=true ∧
  (∀c∈o.campaignRef,fitsColumn 64 c.text=true) ∧
  (∀m∈o.mailboxRef,fitsColumn 100 m.text=true) ∧
  ∀w∈o.wedge,fitsColumn 100 w.text=true:=by
 have version:fitsColumn 64 bounceBreakerVersion.text=true:=rfl
 simp[Incident.fits,Trigger.values,BounceObservation.trigger,version,Option.all_eq_true,and_assoc]

lemma numeric_limit:numeric 24 8 bounceMaximumRate=some bounceMaximumRate:=by
 have onScale:OnScale 8 bounceMaximumRate:=⟨5000000,by norm_num [bounceMaximumRate,unit]⟩
 rw[numeric,roundTo_eq_self onScale]
 norm_num [bounceMaximumRate]

lemma values_stored_eq (sample:bounceMinimumSample≤o.sentCount) :
 (o.trigger.values digests).stored =
  if (o.trigger.values digests).fits then
   some {o.trigger.values digests with observedValue:=some (roundTo 8 o.rate)}
  else none:=by
 have rate:numeric 24 8 o.rate=some (roundTo 8 o.rate):=
  numeric_quotient o.bouncedCount_le (lt_of_lt_of_le (by decide) sample)
 change (if _ then (Columns.whenPresent (numeric 24 8) (some o.rate)).bind fun observed=>
  (Columns.whenPresent (numeric 24 8) (some bounceMaximumRate)).map fun threshold=>
   {o.trigger.values digests with observedValue:=observed,thresholdValue:=threshold}
  else none)=_
 rw[Columns.whenPresent,Columns.whenPresent,numeric_limit,rate]
 rfl

lemma values_stored (sample:bounceMinimumSample≤o.sentCount) :
 (o.trigger.values digests).stored=some (o.trigger.values digests) ↔
  (o.trigger.values digests).fits=true ∧ o.sentCount ∣ o.bouncedCount*10^8:=by
 have pos:0<o.sentCount:=lt_of_lt_of_le (by decide) sample
 rw[values_stored_eq sample,←roundTo_quotient o.bouncedCount_le pos o.sentBound,
  Option.ite_none_right_eq_some]
 apply and_congr_right
 intro fits
 constructor
 · intro same
   exact Option.some.inj (congrArg Incident.observedValue (Option.some.inj same))
 · intro kept
   change roundTo 8 o.rate=o.rate at kept
   rw[kept]
   rfl

lemma observeBounces_high (sample:bounceMinimumSample≤o.sentCount)
 (high:o.sentCount<20*o.bouncedCount)(accepted:o.trigger.accepted=true) :
 observeBounces digests db o =
  ((committed db (saveIncident db (o.trigger.values digests))).1.map some,
   (committed db (saveIncident db (o.trigger.values digests))).2):=by
 have rate:¬o.rate≤bounceMaximumRate:=not_le.mpr (quotient_high o.bouncedCount_le o.sentBound high)
 rw[observeBounces,if_neg (not_lt.mpr sample),if_neg rate,Trigger.checked,dif_pos accepted]
 rfl

lemma observeBounces_saved (sample:bounceMinimumSample≤o.sentCount)
 (high:o.sentCount<20*o.bouncedCount){saved:SaveResult}{db':Db} :
 observeBounces digests db o=(.ok (some saved),db') ↔
  o.trigger.accepted=true ∧ saveIncident db (o.trigger.values digests)=.ok (saved,db'):=by
 by_cases accepted:o.trigger.accepted=true
 · rw[observeBounces_high sample high accepted]
   cases save:saveIncident db (o.trigger.values digests) with
   | error failure=>simp[committed,Except.map]
   | ok result=>simp[committed,Except.map,accepted,Prod.ext_iff]
 · have rate:¬o.rate≤bounceMaximumRate:=
    not_le.mpr (quotient_high o.bouncedCount_le o.sentBound high)
   rw[observeBounces,if_neg (not_lt.mpr sample),if_neg rate,Trigger.checked,dif_neg accepted]
   simp[accepted]

lemma inexact_rate_raises (fresh:Unrecorded digests db o)(sample:20≤o.sentCount)
 (high:o.sentCount<20*o.bouncedCount)(accepted:o.trigger.accepted=true)
 (fits:(o.trigger.values digests).fits=true)(known:∀c∈o.campaignRef,c.text∈db.campaigns)
 (inexact:¬o.sentCount ∣ o.bouncedCount*10^8) :
 observeBounces digests db o =
  (.error (.operationsConflict "conflicting replay for observed_value"),db):=by
 have stored:(o.trigger.values digests).stored =
   some {o.trigger.values digests with observedValue:=some (roundTo 8 o.rate)}:=by
  rw[values_stored_eq sample,if_pos fits]
 have rounded:roundTo 8 o.rate≠o.rate:=by
  intro kept
  exact inexact ((roundTo_quotient o.bouncedCount_le (by omega) o.sentBound).mp kept)
 have campaign:∀c∈(o.trigger.values digests).campaignRef,c∈db.campaigns:=by
  intro c named
  obtain ⟨reference,there,rfl⟩:=Option.map_eq_some_iff.mp named
  exact known reference there
 have differs:requireSame {o.trigger.values digests with observedValue:=some (roundTo 8 o.rate)}
   (o.trigger.values digests) =
   .error (.operationsConflict "conflicting replay for observed_value"):=by
  have column:(some (roundTo 8 o.rate)==(o.trigger.values digests).observedValue)=false:=by
   simpa[Trigger.values,BounceObservation.trigger] using rounded
  simp only[requireSame,Incident.compared,beq_self_eq_true,column,List.find?,Bool.not_true,
   Bool.not_false]
  rfl
 have saved:=saveIncident_differs (fun r mem=>(fresh r mem).2) stored campaign differs
 rw[observeBounces_high sample high accepted,saved]
 rfl

/-- The breaker opens, and stays open over every run that does not resolve the
incident, exactly when the observation is recordable. -/
theorem breaker_opens (db:Db)(o:BounceObservation)(fresh:Unrecorded digests db o)
 (sample:20≤o.sentCount)(high:o.sentCount<20*o.bouncedCount) :
 Opens digests db o ↔ Recordable db o:=by
 have unsaved:∀r∈db.incidents,r.triggerFingerprint≠(o.trigger.values digests).triggerFingerprint ∧
    r.incidentRef≠(o.trigger.values digests).incidentRef:=
  fun r mem=>(fresh r mem).2
 constructor
 · rintro ⟨row,db',observed,-⟩
   obtain ⟨accepted,saved⟩:=(observeBounces_saved sample high).mp observed
   obtain ⟨⟨stored,known⟩,-⟩:=(saveIncident_fresh unsaved).mp saved
   obtain ⟨fits,eightDecimals⟩:=(values_stored sample).mp stored
   refine ⟨eightDecimals,trigger_accepted.mp accepted,values_fits.mp fits,fun c named=>?_⟩
   exact known c.text (by simpa[Trigger.values,BounceObservation.trigger] using ⟨c,named,rfl⟩)
 · intro recordable
   have accepted:=trigger_accepted.mpr recordable.internal
   have stored:(o.trigger.values digests).stored=some (o.trigger.values digests):=
    (values_stored sample).mpr ⟨values_fits.mpr recordable.fits,recordable.eightDecimals⟩
   have known:∀c∈(o.trigger.values digests).campaignRef,c∈db.campaigns:=by
    intro c named
    obtain ⟨reference,there,rfl⟩:=Option.map_eq_some_iff.mp named
    exact recordable.known reference there
   have saved:=(saveIncident_fresh unsaved).mpr ⟨⟨stored,known⟩,rfl⟩
   have found:=(saveIncident_ok saved).2.1
   refine ⟨_,_,(observeBounces_saved sample high).mpr ⟨accepted,saved⟩,
    List.mem_append_right _ List.mem_cons_self,rfl,by simp[Trigger.values],?_⟩
   intro ops unresolved
   have standing:Standing (o.trigger.values digests) (ops.foldl (step digests)
     {db with incidents:=db.incidents++[o.trigger.values digests]}):=by
    have run:Runs.Along (step digests)
      (fun _ op=>∀at',op≠.resolve (o.trigger.values digests).incidentRef at')
      {db with incidents:=db.incidents++[o.trigger.values digests]} ops:=by
     apply Runs.along_of_mem
     intro op mem _ at' resolves
     exact unresolved at' (resolves ▸ mem)
    apply run.invariant
    · intro s op here allowed
      exact step_standing here allowed
    · exact ⟨_,found,(saveIncident_ok saved).2.2,by simp[Trigger.values]⟩
   refine ⟨standing.breaker rfl rfl rfl,fun at'=>?_⟩
   -- The times of an observation are not compared.
   have again:Standing ((o.again at').trigger.values digests) _:=standing
   have recorded:Recordable db (o.again at'):=
    ⟨recordable.eightDecimals,recordable.internal,recordable.fits,recordable.known⟩
   have fits:((o.again at').trigger.values digests).fits=true:=values_fits.mpr recorded.fits
   have kept:((o.again at').trigger.values digests).stored =
     some ((o.again at').trigger.values digests):=
    (values_stored (o:=o.again at') sample).mpr ⟨fits,recorded.eightDecimals⟩
   obtain ⟨row',replayed⟩:=again.replayed (by rw[kept];rfl)
   exact ⟨row',(observeBounces_saved (o:=o.again at') sample high).mpr
    ⟨trigger_accepted.mpr recorded.internal,replayed⟩⟩

def sampleMembers:List SafeRef:=
 [⟨"a",rfl⟩,⟨"b",rfl⟩,⟨"c",rfl⟩,⟨"d",rfl⟩,⟨"e",rfl⟩,⟨"f",rfl⟩,⟨"g",rfl⟩,
  ⟨"h",rfl⟩,⟨"i",rfl⟩,⟨"j",rfl⟩,⟨"k",rfl⟩,⟨"l",rfl⟩,⟨"m",rfl⟩,⟨"n",rfl⟩,
  ⟨"o",rfl⟩,⟨"p",rfl⟩,⟨"q",rfl⟩,⟨"r",rfl⟩,⟨"s",rfl⟩,⟨"t",rfl⟩,⟨"u",rfl⟩]

lemma sampleMembers_nodup:sampleMembers.Nodup:=by
 apply List.Nodup.of_map SafeRef.text
 simp[sampleMembers]

lemma sampleMembers_take (n:ℕ):(sampleMembers.take n).length≤100000:=by
 simp[sampleMembers]

def sampleObservation (others:ℕ):BounceObservation where
 scope:=⟨.mailbox,⟨"mailbox-1",rfl⟩,rfl⟩
 authoritativeStep1Members:=sampleMembers.take (2+others)
 bouncedStep1Members:=sampleMembers.take 2
 sourceStateRef:=⟨"state-1",rfl⟩
 observedAt:=0
 campaignRef:=none
 mailboxRef:=none
 wedge:=none
 country:=some .ch
 sentBound:=sampleMembers_take _
 bouncedBound:=sampleMembers_take _
 sentUnique:=sampleMembers_nodup.sublist (List.take_sublist _ _)
 bouncedUnique:=sampleMembers_nodup.sublist (List.take_sublist _ _)
 bouncedSent:=(List.take_sublist_take_left (Nat.le_add_right 2 others)).subset

def sampleDigests:Digests where
 ofIdentity _:="6adbbac451bc1fb557ecf8319db88a4613718b2fbe50608d6d626c31748c53e1"
 ofFingerprint _:="77571ed526304ee98f48d2c85fb7bfb76e520812a3cd1e469873439b63d2f7e1"

def emptyDb:Db:=⟨[],[]⟩

theorem breaker_opens_sample:Opens sampleDigests emptyDb (sampleObservation 18):=by
 refine (breaker_opens emptyDb (sampleObservation 18) ?_ ?_ ?_).mpr ⟨?_,?_,?_,?_⟩
 · intro r mem
   cases mem
 · decide
 · decide
 · decide
 · exact ⟨rfl,rfl,rfl,rfl⟩
 · refine ⟨rfl,rfl,?_,?_,?_⟩ <;> intro c named <;> cases named
 · intro c named
   cases named

/-- Two bounces of twenty-one: no incident can be opened for them. -/
theorem two_of_twenty_one_raise : 20≤(sampleObservation 19).sentCount ∧
  (sampleObservation 19).sentCount<20*(sampleObservation 19).bouncedCount ∧
  Unrecorded sampleDigests emptyDb (sampleObservation 19) ∧
  observeBounces sampleDigests emptyDb (sampleObservation 19) =
   (.error (.operationsConflict "conflicting replay for observed_value"),emptyDb) ∧
  ¬Opens sampleDigests emptyDb (sampleObservation 19):=by
 have fresh:Unrecorded sampleDigests emptyDb (sampleObservation 19):=by
  intro r mem
  cases mem
 have raised:observeBounces sampleDigests emptyDb (sampleObservation 19) =
   (.error (.operationsConflict "conflicting replay for observed_value"),emptyDb):=by
  apply inexact_rate_raises fresh
  · decide
  · decide
  · rfl
  · rfl
  · intro c named
    cases named
  · decide
 refine ⟨by decide,by decide,fresh,raised,?_⟩
 rintro ⟨row,db',observed,-⟩
 rw[raised] at observed
 cases observed

end Kivou.BounceBreaker
