import Kivou.CampaignRecords
import Kivou.Runs
import Kivou.Texts
import Mathlib.Algebra.Order.Ring.Int
import Mathlib.Tactic.Linarith

set_option autoImplicit false

/-! Calls of `schedule` from any clock, batches that are closed when due and campaigns that leave
`BUILDING`, in any order. Each campaign's members are those that it counts, and the caps hold in
each local day, where the two zones agree on what day it is. -/
namespace Kivou.Campaigns
open Tables PythonValues

variable (digests:Digests)(zones:Zones)

/-- What `schedule` hands to the store once its preview and policy are settled. -/
structure ScheduledCall where
 factoryInput:CampaignFactoryInput
 member:CampaignMemberReservation
 (providerWorkspaceRef providerConfigFingerprint:String)
 capturedAt:ℤ
 (campaignRef requestId:String)
 (kivouDailyCap providerDailyLimit:ℕ)

def ScheduledCall.dailyCap (call:ScheduledCall):ℕ:=min call.kivouDailyCap call.providerDailyLimit

def ScheduledCall.reservation (call:ScheduledCall):Reservation where
 factoryInput:=call.factoryInput
 member:=call.member
 providerWorkspaceRef:=call.providerWorkspaceRef
 desiredProviderConfigFingerprint:=call.providerConfigFingerprint
 reservedAt:=call.capturedAt
 expectedCampaignRef:=some call.campaignRef
 operationCorrelationId:=some call.requestId
 effectiveMailboxDailyCap:=some call.dailyCap

inductive Operation where
 | schedule (call:ScheduledCall)
 | closeDueBatches (now:ℤ)
 | leaveBuilding (campaignRef:String)(lifecycle:Lifecycle)

/-- No writer of a lifecycle takes a campaign back to `BUILDING`. -/
def leaveBuilding (campaignRef:String)(lifecycle:Lifecycle)(s:Store):Store:=
 if lifecycle=.building then s
 else
  {s with
    campaigns:=update (fun c=>c.campaignRef==campaignRef)
     (fun c=>{c with lifecycle:=lifecycle}) s.campaigns}

def step (s:Store):Operation→Store
 | .schedule call =>
  match reserveMember digests zones call.reservation s with
  | .ok (s',_)=>s'
  | .error _=>s
 | .closeDueBatches now=>closeDueBatches now s
 | .leaveBuilding campaignRef lifecycle=>leaveBuilding campaignRef lifecycle s

def reached (ops:List Operation):Store:=ops.foldl (step digests zones) Store.empty

variable {digests zones}

/-- The campaign that a reservation finds or opens, among those there are then. -/
structure Joins (digests:Digests)(r:Reservation)(s:Store)(c:Campaign)
  (campaigns:List Campaign):Prop where
 key:c.campaignGroupKey=digests.ofGroup r.factoryInput.toDimensions
 isOpen:c.isOpen r.reservedAt=true
 among:c∈s.campaigns ∧ campaigns=s.campaigns ∨
  (∀other∈s.campaigns,other.campaignRef≠c.campaignRef) ∧
   campaigns=s.campaigns++[c] ∧ c.wedge=r.factoryInput.wedge ∧
   c.reservedMemberCount=0 ∧ c.memberCapacity=10

structure Admitted (digests:Digests)(zones:Zones)(r:Reservation)(s s':Store):Prop where
 unknown:∀m∈s.members,m.acquisitionOpportunityId≠r.member.acquisitionOpportunityId
 paced:∀cap∈r.effectiveMailboxDailyCap,requirePacingCapacity zones s r cap=.ok ()
 joins:∃c campaigns,Joins digests r s c campaigns ∧
  s'.campaigns=update (fun other=>other.campaignRef==c.campaignRef)
   (Campaign.joinedAt r.reservedAt) campaigns ∧
  s'.members=s.members++[r.row digests c.campaignRef]

lemma build_ok {value:CampaignFactoryInput}{n:ℕ}{plan:CampaignPlan}
 (h:build digests zones value n=.ok plan) :
 plan.campaignGroupKey=digests.ofGroup value.toDimensions ∧ plan.wedge=value.wedge:=by
 obtain ⟨window,-,is⟩:=bind_ok.mp h
 cases is
 exact ⟨rfl,rfl⟩

variable {campaigns:List Campaign}{r:Reservation}{result:CampaignReservationResult}{t:ℤ}

lemma insertCampaign_ok {c:Campaign}{rows:List Campaign} (h:insertCampaign c campaigns=.ok rows) :
 rows=campaigns++[c] ∧ ∀other∈campaigns,other.campaignRef≠c.campaignRef:=by
 unfold insertCampaign at h
 split at h
 · cases h
 · rename_i fresh
   cases h
   refine ⟨rfl,fun other mem same=>fresh ?_⟩
   exact List.any_eq_true.mpr ⟨other,mem,by simp[same]⟩

lemma campaignFor_ok {s:Store}{c:Campaign}
 (h:campaignFor digests zones r s=.ok (c,campaigns)):Joins digests r s c campaigns:=by
 obtain ⟨probe,built,h⟩:=bind_ok.mp h
 have key:=(build_ok built).1
 split at h
 · rename_i campaign found
   cases h
   have mem:=List.argmin_mem (Option.mem_def.mpr found)
   obtain ⟨mem,is⟩:=List.mem_filter.mp mem
   rw[Bool.and_eq_true,beq_iff_eq] at is
   exact ⟨is.1.trans key,is.2,.inl ⟨mem,rfl⟩⟩
 · obtain ⟨plan,planned,h⟩:=bind_ok.mp h
   obtain ⟨rows,inserted,h⟩:=bind_ok.mp h
   cases h
   obtain ⟨rfl,fresh⟩:=insertCampaign_ok inserted
   exact ⟨(build_ok planned).1,rfl,.inr ⟨fresh,rfl,(build_ok planned).2,rfl,rfl⟩⟩

lemma insertMember_ok {m:Member}{members rows:List Member}
 (h:insertMember m members=.ok rows):rows=members++[m]:=by
 unfold insertMember at h
 split at h
 · cases h
 · cases h
   rfl

lemma admitMember_ok {s s':Store}
 (unknown:∀m∈s.members,m.acquisitionOpportunityId≠r.member.acquisitionOpportunityId)
 (h:admitMember digests zones r s=.ok (s',result)):Admitted digests zones r s s':=by
 obtain ⟨⟨⟩,paced,h⟩:=bind_ok.mp h
 obtain ⟨⟨c,campaigns⟩,found,h⟩:=bind_ok.mp h
 obtain ⟨-,-,h⟩:=bind_ok.mp h
 obtain ⟨members,inserted,h⟩:=bind_ok.mp h
 cases h
 refine ⟨unknown,fun cap is=>?_,c,campaigns,campaignFor_ok found,rfl,insertMember_ok inserted⟩
 simpa only[requirePacing,Option.mem_def.mp is] using paced

lemma replayMember_ok {existing:Member}{s s':Store}
 (h:replayMember digests r existing s=.ok (s',result)) :
 s'.campaigns=s.campaigns ∧ s'.members=s.members:=by
 simp only[replayMember] at h
 split at h
 · cases h
 · split at h
   · cases h
   · cases h
     exact ⟨rfl,rfl⟩

lemma reserveMember_ok {s s':Store} (h:reserveMember digests zones r s=.ok (s',result)) :
 s'.campaigns=s.campaigns ∧ s'.members=s.members ∨ Admitted digests zones r s s':=by
 unfold reserveMember at h
 split at h
 · exact .inl (replayMember_ok h)
 · rename_i unknown
   refine .inr (admitMember_ok (fun m mem same=>?_) h)
   exact absurd same (by simpa using List.find?_eq_none.mp unknown m mem)

structure Assembled (s:Store):Prop where
 refs:(s.campaigns.map Campaign.campaignRef).Nodup
 homes:∀m∈s.members,∃c∈s.campaigns,c.campaignRef=m.campaignRef
 counted:∀c∈s.campaigns,c.reservedMemberCount=s.members.countP fun m=>m.campaignRef==c.campaignRef
 capacity:∀c∈s.campaigns,c.memberCapacity=10 ∧ c.reservedMemberCount≤10
 inTime:∀c∈s.campaigns,∀m∈s.members,m.campaignRef=c.campaignRef →
  ∃close∈c.membershipCloseAt,m.createdAt<close
 once:(s.members.map Member.acquisitionOpportunityId).Nodup

lemma empty_assembled:Assembled Store.empty where
 refs:=List.nodup_nil
 homes _ mem:=(List.not_mem_nil mem).elim
 counted _ mem:=(List.not_mem_nil mem).elim
 capacity _ mem:=(List.not_mem_nil mem).elim
 inTime _ mem:=(List.not_mem_nil mem).elim
 once:=List.nodup_nil

structure Campaign.Same (c c':Campaign):Prop where
 campaignRef:c'.campaignRef=c.campaignRef
 campaignGroupKey:c'.campaignGroupKey=c.campaignGroupKey
 wedge:c'.wedge=c.wedge
 reservedMemberCount:c'.reservedMemberCount=c.reservedMemberCount
 memberCapacity:c'.memberCapacity=c.memberCapacity
 membershipCloseAt:c'.membershipCloseAt=c.membershipCloseAt

variable {s s':Store}

lemma Assembled.update_same (a:Assembled s){p:Campaign→Bool}{f:Campaign→Campaign}
 (same:∀c,Campaign.Same c (f c)):Assembled {s with campaigns:=update p f s.campaigns}:=by
 have each:∀c∈update p f s.campaigns,∃old∈s.campaigns,old.Same c:=by
  intro c mem
  obtain ⟨old,there,is⟩:=mem_update.mp mem
  refine ⟨old,there,?_⟩
  subst is
  split
  · exact same old
  · exact ⟨rfl,rfl,rfl,rfl,rfl,rfl⟩
 have refs:(update p f s.campaigns).map Campaign.campaignRef =s.campaigns.map Campaign.campaignRef:=
  map_key_update fun c _ _=>(same c).campaignRef
 constructor
 · rw[refs]
   exact a.refs
 · intro m mem
   obtain ⟨c,there,is⟩:=a.homes m mem
   have ref:m.campaignRef∈(update p f s.campaigns).map Campaign.campaignRef:=by
    rw[refs,←is]
    exact List.mem_map_of_mem there
   exact List.mem_map.mp ref
 · intro c mem
   obtain ⟨old,there,is⟩:=each c mem
   rw[is.reservedMemberCount,is.campaignRef]
   exact a.counted old there
 · intro c mem
   obtain ⟨old,there,is⟩:=each c mem
   rw[is.memberCapacity,is.reservedMemberCount]
   exact a.capacity old there
 · intro c mem m member home
   obtain ⟨old,there,is⟩:=each c mem
   rw[is.membershipCloseAt]
   exact a.inTime old there m member (home.trans is.campaignRef)
 · exact a.once

lemma Assembled.opened (a:Assembled s){c:Campaign}(joins:Joins digests r s c campaigns) :
 Assembled {s with campaigns:=campaigns} ∧ c∈campaigns:=by
 rcases joins.among with ⟨mem,rfl⟩|⟨fresh,rfl,-,none,ten⟩
 · exact ⟨a,mem⟩
 · have nobody:∀m∈s.members,m.campaignRef≠c.campaignRef:=by
    intro m mem is
    obtain ⟨home,there,same⟩:=a.homes m mem
    exact fresh home there (same.trans is)
   refine ⟨⟨nodup_append_fresh a.refs fresh,?_,?_,?_,?_,a.once⟩,by simp⟩
   · intro m mem
     obtain ⟨home,there,same⟩:=a.homes m mem
     exact ⟨home,List.mem_append_left _ there,same⟩
   · intro d mem
     rcases List.mem_append.mp mem with old|new
     · exact a.counted d old
     · cases List.mem_singleton.mp new
       rw[none,eq_comm,List.countP_eq_zero]
       exact fun m member=>by simpa using nobody m member
   · intro d mem
     rcases List.mem_append.mp mem with old|new
     · exact a.capacity d old
     · cases List.mem_singleton.mp new
       exact ⟨ten,by omega⟩
   · intro d mem m member home
     rcases List.mem_append.mp mem with old|new
     · exact a.inTime d old m member home
     · cases List.mem_singleton.mp new
       exact absurd home (nobody m member)

lemma isOpen_iff {c:Campaign} :
 c.isOpen t=true ↔ c.lifecycle=.building ∧ c.membershipClosedAt=none ∧
  c.reservedMemberCount<c.memberCapacity ∧ ∀close∈c.membershipCloseAt,t<close:=by
 unfold Campaign.isOpen
 cases c.membershipCloseAt <;> simp[and_assoc]

lemma Assembled.join (a:Assembled s){c:Campaign}(mem:c∈s.campaigns){row:Member}
 (home:row.campaignRef=c.campaignRef)(isOpen:c.isOpen row.createdAt=true)
 (unknown:∀m∈s.members,m.acquisitionOpportunityId≠row.acquisitionOpportunityId)
 {operations:List ProviderOperation} :
 Assembled {
  campaigns:=update (fun other=>other.campaignRef==c.campaignRef)
   (Campaign.joinedAt row.createdAt) s.campaigns
  members:=s.members++[row]
  operations}:=by
 obtain ⟨-,-,room,before⟩:=isOpen_iff.mp isOpen
 have ten:=(a.capacity c mem).1
 have refs:(update (fun other:Campaign=>other.campaignRef==c.campaignRef)
   (Campaign.joinedAt row.createdAt) s.campaigns).map Campaign.campaignRef =
    s.campaigns.map Campaign.campaignRef:=map_key_update fun _ _ _=>rfl
 -- the campaign that the row joins, and the others, which stay
 have each:∀d∈update (fun other:Campaign=>other.campaignRef==c.campaignRef)
   (Campaign.joinedAt row.createdAt) s.campaigns,
   d=c.joinedAt row.createdAt ∨ d∈s.campaigns ∧ d.campaignRef≠c.campaignRef:=by
  intro d there
  obtain ⟨old,was,is⟩:=mem_update.mp there
  split at is
  · rename_i same
    cases List.inj_on_of_nodup_map a.refs was mem (beq_iff_eq.mp same)
    exact .inl is.symm
  · rename_i other
    subst is
    exact .inr ⟨was,fun same=>other (beq_iff_eq.mpr same)⟩
 constructor
 · rw[refs]
   exact a.refs
 · intro m member
   have ref:m.campaignRef∈s.campaigns.map Campaign.campaignRef:=by
    rcases List.mem_append.mp member with old|new
    · obtain ⟨d,there,is⟩:=a.homes m old
      exact is ▸ List.mem_map_of_mem there
    · cases List.mem_singleton.mp new
      exact home ▸ List.mem_map_of_mem mem
   exact List.mem_map.mp (refs ▸ ref)
 · intro d there
   rw[List.countP_append,List.countP_singleton]
   rcases each d there with rfl|⟨was,other⟩
   · change c.reservedMemberCount+1 =s.members.countP (fun m=>m.campaignRef==c.campaignRef) +
       if (row.campaignRef==c.campaignRef)=true then 1 else 0
     rw[a.counted c mem,if_pos (beq_iff_eq.mpr home)]
   · rw[a.counted d was,if_neg fun is=>other ((beq_iff_eq.mp is).symm.trans home)]
     rfl
 · intro d there
   rcases each d there with rfl|⟨was,-⟩
   · refine ⟨ten,?_⟩
     change c.reservedMemberCount+1≤10
     omega
   · exact a.capacity d was
 · intro d there m member same
   rcases each d there with rfl|⟨was,other⟩
   · change ∃close∈if c.reservedMemberCount+1=1 then _ else _,_
     rcases List.mem_append.mp member with old|new
     · have counted:0<c.reservedMemberCount:=by
        rw[a.counted c mem]
        exact List.countP_pos_iff.mpr ⟨m,old,beq_iff_eq.mpr same⟩
       rw[if_neg (by omega)]
       exact a.inTime c mem m old same
     · cases List.mem_singleton.mp new
       split
       · refine ⟨_,rfl,?_⟩
         unfold seconds
         omega
       · rename_i later
         have counted:c.reservedMemberCount≠0:=by omega
         rw[a.counted c mem,Ne,List.countP_eq_zero] at counted
         push Not at counted
         obtain ⟨first,old,is⟩:=counted
         obtain ⟨close,closes,-⟩:=a.inTime c mem first old (beq_iff_eq.mp is)
         exact ⟨close,closes,before close closes⟩
   · rcases List.mem_append.mp member with old|new
     · exact a.inTime d was m old same
     · cases List.mem_singleton.mp new
       exact absurd (same.symm.trans home) other
 · exact nodup_append_fresh a.once unknown

structure Zone.Regular (zone:Zone)(since:ℤ):Prop where
 midnight:∀d,zone.date since≤d→zone.clock (zone.instant d 0)=(d,0)
 begins:∀d t,zone.date since≤d→since≤t→(zone.instant d 0≤t ↔ d≤zone.date t)

structure Zones.Regular (zones:Zones)(since:ℤ):Prop where
 zurich:zones.zurich.Regular since
 paris:zones.paris.Regular since
 agree:∀t,since≤t→zones.zurich.date t=zones.paris.date t

variable {since:ℤ}

lemma Zone.Regular.date_le {zone:Zone}(regular:zone.Regular since)
 (later:since≤t):zone.date since≤zone.date t:=by
 have start:=(regular.begins (zone.date since) since le_rfl le_rfl).mpr le_rfl
 exact (regular.begins (zone.date since) t le_rfl later).mp (start.trans later)

lemma Zones.Regular.of (regular:zones.Regular since)(country:Country) :
 (zones.of country).Regular since:=by
 cases country with
 | ch=>exact regular.zurich
 | fr=>exact regular.paris

lemma Zones.Regular.date_of (regular:zones.Regular since)(country:Country)
 (later:since≤t):(zones.of country).date t=zones.paris.date t:=by
 cases country with
 | ch=>exact regular.agree t later
 | fr=>rfl

lemma Zones.Regular.day_iff (regular:zones.Regular since)
 (reserved:since≤r.reservedAt)(later:since≤t) :
 (r.day zones).1≤t ∧ t<(r.day zones).2 ↔
  zones.paris.date t=zones.paris.date r.reservedAt:=by
 have zone:=regular.of r.factoryInput.jurisdiction
 rw[←regular.date_of r.factoryInput.jurisdiction later,
  ←regular.date_of r.factoryInput.jurisdiction reserved]
 generalize is:(zones.of r.factoryInput.jurisdiction).date r.reservedAt=d
 have first:(zones.of r.factoryInput.jurisdiction).date since≤d:=is ▸ zone.date_le reserved
 have day:r.day zones=((zones.of r.factoryInput.jurisdiction).instant d 0,
   (zones.of r.factoryInput.jurisdiction).instant (d+1) 0):=by
  simp only[Reservation.day,is,zone.midnight d first]
 rw[day,zone.begins d t first later,←not_le,zone.begins (d+1) t (by omega) later]
 omega

def Store.counts (s:Store)(q:Member × Campaign→Bool)(m:Member):Bool:=
 (s.campaign? m.campaignRef).any fun c=>q (m,c)

lemma joined_countP (q:Member × Campaign→Bool) : s.joined.countP q=s.members.countP (s.counts q):=by
 unfold Store.joined
 rw[List.countP_filterMap]
 refine List.countP_congr fun m _=>?_
 unfold Store.counts
 cases s.campaign? m.campaignRef <;> simp

lemma Assembled.campaign? (a:Assembled s){c:Campaign}(mem:c∈s.campaigns) :
 s.campaign? c.campaignRef=some c:=find?_of_mem a.refs mem

lemma Assembled.joined_countP (a:Assembled s)(q:Member→Bool) :
 s.joined.countP (fun row=>q row.1)=s.members.countP q:=by
 rw[Campaigns.joined_countP]
 refine List.countP_congr fun m mem=>?_
 obtain ⟨c,there,is⟩:=a.homes m mem
 rw[Store.counts,←is,a.campaign? there]
 rfl

lemma Joins.joined_countP (a:Assembled s){c:Campaign}(joins:Joins digests r s c campaigns)
 (is:s'.campaigns=update (fun other=>other.campaignRef==c.campaignRef)
  (Campaign.joinedAt r.reservedAt) campaigns)
 (members:s'.members=s.members++[r.row digests c.campaignRef])
 {q:Member × Campaign→Bool}(kept:∀m d,q (m,Campaign.joinedAt r.reservedAt d)=q (m,d)) :
 s'.joined.countP q=s.joined.countP q+if q (r.row digests c.campaignRef,c) then 1 else 0:=by
 have lookup:∀ref,s'.campaign? ref =
   if ref=c.campaignRef then some (c.joinedAt r.reservedAt) else s.campaign? ref:=by
  intro ref
  have there:campaigns.find? (fun d=>d.campaignRef==c.campaignRef)=some c:=
   find?_of_mem (a.opened joins).1.refs (a.opened joins).2
  have sameRef:∀d:Campaign,(d.joinedAt r.reservedAt).campaignRef=d.campaignRef:=fun _=>rfl
  rw[Store.campaign?,is,find?_update sameRef,there]
  split
  · rfl
  · rename_i other
    rcases joins.among with ⟨-,rfl⟩|⟨fresh,rfl,-⟩
    · rfl
    · rw[find?_append_fresh fresh,if_neg other]
      rfl
 have old:∀m∈s.members,s'.counts q m=s.counts q m:=by
  intro m mem
  unfold Store.counts
  rw[lookup]
  split
  · rename_i home
    obtain ⟨d,there,same⟩:=a.homes m mem
    rcases joins.among with ⟨was,-⟩|⟨fresh,-⟩
    · rw[home,a.campaign? was]
      exact kept m c
    · exact absurd (same.trans home) (fresh d there)
  · rfl
 rw[Campaigns.joined_countP,Campaigns.joined_countP,members,List.countP_append,
  List.countP_singleton,List.countP_congr fun m mem=>by rw[old m mem]]
 congr 2
 have home:(r.row digests c.campaignRef).campaignRef=c.campaignRef:=rfl
 rw[Store.counts,lookup,if_pos home]
 exact congrArg (· = true) (kept _ c)

lemma requirePacingCapacity_ok {cap:ℤ} (h:requirePacingCapacity zones s r cap=.ok ()) :
 (∀check∈r.checks cap,(s.dayCount (r.day zones) check.2.2:ℤ)<check.2.1) ∧
  ∀m∈s.members,m.supplierRef=r.member.supplierRef →m.createdAt<r.reservedAt-days 30:=by
 simp only[requirePacingCapacity] at h
 split at h
 · cases h
 · rename_i below
   split at h
   · cases h
   · rename_i noCompany
     constructor
     · intro check mem
       have under:=List.find?_eq_none.mp below check mem
       simp only[Bool.or_eq_true,decide_eq_true_eq,not_or,not_le] at under
       exact under.2
     · intro m mem same
       by_contra recent
       refine noCompany (List.countP_pos_iff.mpr ⟨m,mem,?_⟩)
       simpa[same] using recent

structure Paced (zones:Zones)(caps:String→ℤ→ℕ)(s:Store):Prop where
 total:∀country d,s.members.countP (fun m=>(zones.of country).date m.createdAt==d)≤5
 wedge:∀country d wedge,s.joined.countP
  (fun row=>(zones.of country).date row.1.createdAt==d&&row.2.wedge==wedge)≤3
 mailbox:∀country d ref,s.members.countP
  (fun m=>(zones.of country).date m.createdAt==d&&m.mailboxRef==ref)≤caps ref d
 apart:s.members.Pairwise fun m m'=>m.supplierRef=m'.supplierRef→m.createdAt+days 30 < m'.createdAt

structure Inv (digests:Digests)(zones:Zones)(since:ℤ)(caps:String→ℤ→ℕ)
  (s:Store):Prop extends Assembled s,Paced zones caps s where
 grouped:∀c∈s.campaigns,∃dimensions:Dimensions,
  c.campaignGroupKey=digests.ofGroup dimensions ∧ c.wedge=dimensions.wedge
 late:∀m∈s.members,since ≤ m.createdAt

variable {caps:String→ℤ→ℕ}

lemma mem_joined {row:Member × Campaign}(mem:row∈s.joined):row.1∈s.members:=by
 obtain ⟨m,there,is⟩:=List.mem_filterMap.mp mem
 obtain ⟨c,-,rfl⟩:=Option.map_eq_some_iff.mp is
 exact there

lemma dayCount_eq (regular:zones.Regular since)(late:∀m∈s.members,since ≤ m.createdAt)
 (reserved:since≤r.reservedAt)(counts:Member × Campaign→Bool) :
 s.dayCount (r.day zones) counts=s.joined.countP fun row=>
  zones.paris.date row.1.createdAt==zones.paris.date r.reservedAt&&counts row:=by
 refine List.countP_congr fun row mem=>?_
 have day:=regular.day_iff reserved (late row.1 (mem_joined mem))
 rw[Bool.and_eq_true,Bool.and_eq_true,Bool.and_eq_true,decide_eq_true_eq,decide_eq_true_eq,
  day,beq_iff_eq]

lemma count_le_of_room (regular:zones.Regular since) (late:∀m∈s.members,since ≤ m.createdAt)
 (reserved:since≤r.reservedAt){campaignRef:String}(c:Campaign)
 {p:Member × Campaign→Bool}{d:ℤ}{limit:ℕ}
 (grown:s'.joined.countP (fun row=>zones.paris.date row.1.createdAt==d&&p row) =
  s.joined.countP (fun row=>zones.paris.date row.1.createdAt==d&&p row) +
   if zones.paris.date (r.row digests campaignRef).createdAt==d &&
    p (r.row digests campaignRef,c) then 1 else 0)
 (before:s.joined.countP
  (fun row=>zones.paris.date row.1.createdAt==d&&p row)≤limit)
 (room:zones.paris.date r.reservedAt=d→p (r.row digests campaignRef,c)=true →
  s.dayCount (r.day zones) p<limit) :
 s'.joined.countP (fun row=>zones.paris.date row.1.createdAt==d&&p row)≤limit:=by
 rw[grown]
 split
 · rename_i counted
   rw[Bool.and_eq_true,beq_iff_eq] at counted
   have today:zones.paris.date r.reservedAt=d:=counted.1
   have less:=room today counted.2
   rw[dayCount_eq regular late reserved,today] at less
   omega
 · exact before

lemma Joins.wedge_eq (distinct:Function.Injective digests.ofGroup)
 {c:Campaign}(inv:Inv digests zones since caps s)
 (joins:Joins digests r s c campaigns):c.wedge=r.factoryInput.wedge:=by
 rcases joins.among with ⟨mem,-⟩|⟨-,-,wedge,-⟩
 · obtain ⟨dimensions,key,wedge⟩:=inv.grouped c mem
   rw[wedge,distinct (key.symm.trans joins.key)]
 · exact wedge

lemma Admitted.assembled (a:Assembled s) (h:Admitted digests zones r s s'):Assembled s':=by
 obtain ⟨c,campaigns,joins,is,members⟩:=h.joins
 obtain ⟨opened,mem⟩:=a.opened joins
 have home:(r.row digests c.campaignRef).campaignRef=c.campaignRef:=rfl
 have unknown:=h.unknown
 cases s'
 cases is
 cases members
 exact opened.join mem home joins.isOpen unknown

lemma Admitted.inv (distinct:Function.Injective digests.ofGroup)
 (regular:zones.Regular since)(inv:Inv digests zones since caps s)
 (h:Admitted digests zones r s s')(reserved:since≤r.reservedAt){cap:ℕ}
 (capped:r.effectiveMailboxDailyCap=some (cap:ℤ))
 (within:min 3 cap≤caps r.member.mailboxRef (zones.paris.date r.reservedAt)) :
 Inv digests zones since caps s':=by
 have assembled:=h.assembled inv.toAssembled
 obtain ⟨checked,noCompany⟩:=requirePacingCapacity_ok (h.paced cap capped)
 obtain ⟨c,campaigns,joins,is,members⟩:=h.joins
 have wedge:=joins.wedge_eq distinct inv
 have late:∀m∈s'.members,since ≤ m.createdAt:=by
  intro m mem
  rw[members] at mem
  rcases List.mem_append.mp mem with old|new
  · exact inv.late m old
  · cases List.mem_singleton.mp new
    exact reserved
 have paris:zones.of .fr=zones.paris:=rfl
 have total:∀d,s'.joined.countP (fun row=>zones.paris.date row.1.createdAt==d&&true)≤5:=by
  intro d
  have before:=inv.total .fr d
  rw[←inv.toAssembled.joined_countP,paris] at before
  refine count_le_of_room regular inv.late reserved c
   (joins.joined_countP inv.toAssembled is members fun _ _=>rfl) (by simpa using before)
   fun _ _=>?_
  have less:=checked ("global",5,fun _=>true) (by simp[Reservation.checks])
  exact Int.ofNat_lt.mp less
 have wedges:∀d w,s'.joined.countP
   (fun row=>zones.paris.date row.1.createdAt==d&&row.2.wedge==w)≤3:=by
  intro d w
  refine count_le_of_room regular inv.late reserved c
   (joins.joined_countP inv.toAssembled is members fun _ _=>rfl) (inv.wedge .fr d w)
   fun _ counted=>?_
  have less:=checked ("wedge",3,fun row=>row.2.wedge==r.factoryInput.wedge)
   (by simp[Reservation.checks])
  rw[←wedge,beq_iff_eq.mp counted] at less
  exact Int.ofNat_lt.mp less
 have mailboxes:∀d ref,s'.joined.countP
   (fun row=>zones.paris.date row.1.createdAt==d&&row.1.mailboxRef==ref) ≤
    caps ref d:=by
  intro d ref
  have before:=inv.mailbox .fr d ref
  rw[←inv.toAssembled.joined_countP,paris] at before
  refine count_le_of_room regular inv.late reserved c
   (joins.joined_countP inv.toAssembled is members fun _ _=>rfl) before fun today counted=>?_
  have mailbox:r.member.mailboxRef=ref:=beq_iff_eq.mp counted
  have less:(s.dayCount (r.day zones) fun row=>row.1.mailboxRef==r.member.mailboxRef:ℤ) <
    min 3 (cap:ℤ):=checked ("mailbox",_,_) (by simp[Reservation.checks])
  rw[mailbox] at less within
  rw[today] at within
  omega
 -- in both zones the dates are those of Paris
 have same:∀country,∀m∈s'.members,(zones.of country).date m.createdAt=zones.paris.date m.createdAt:=
  fun country m mem=>regular.date_of country (late m mem)
 refine ⟨assembled,⟨?_,?_,?_,?_⟩,?_,late⟩
 · intro country d
   rw[List.countP_congr fun m mem=>by rw[same country m mem],←assembled.joined_countP]
   simpa using total d
 · intro country d w
   rw[List.countP_congr fun row mem=>by rw[same country row.1 (mem_joined mem)]]
   exact wedges d w
 · intro country d ref
   rw[List.countP_congr fun m mem=>by rw[same country m mem],←assembled.joined_countP]
   exact mailboxes d ref
 · rw[members,List.pairwise_append]
   refine ⟨inv.apart,List.pairwise_singleton _ _,?_⟩
   intro m mem m' new company
   cases List.mem_singleton.mp new
   have before:=noCompany m mem company
   change m.createdAt+days 30<r.reservedAt
   omega
 · intro d mem
   rw[is] at mem
   obtain ⟨old,there,rfl⟩:=mem_update.mp mem
   have grouped:∃dimensions:Dimensions,
     old.campaignGroupKey=digests.ofGroup dimensions ∧ old.wedge=dimensions.wedge:=by
    rcases joins.among with ⟨-,rfl⟩|⟨-,rfl,-⟩
    · exact inv.grouped old there
    · rcases List.mem_append.mp there with was|new
      · exact inv.grouped old was
      · cases List.mem_singleton.mp new
        exact ⟨r.factoryInput.toDimensions,joins.key,wedge⟩
   split
   · exact grouped
   · exact grouped

/-- Closing a batch or leaving `BUILDING` is an update that keeps what members say. -/
lemma Inv.update_same (inv:Inv digests zones since caps s){p:Campaign→Bool}
 {f:Campaign→Campaign}(same:∀c,Campaign.Same c (f c)) :
 Inv digests zones since caps {s with campaigns:=update p f s.campaigns}:=by
 have lookup:∀ref,Store.campaign? {s with campaigns:=update p f s.campaigns} ref =
   (s.campaign? ref).map fun c=>if p c then f c else c:=
  fun ref=>find?_update_where (fun c=>(same c).campaignRef) ref
 have counts:∀ (date:ℤ→ℤ)(d:ℤ)(wedge:String),
   (Store.joined {s with campaigns:=update p f s.campaigns}).countP
    (fun row=>date row.1.createdAt==d&&row.2.wedge==wedge) =
   s.joined.countP fun row=>date row.1.createdAt==d&&row.2.wedge==wedge:=by
  intro date d wedge
  rw[joined_countP,joined_countP]
  refine List.countP_congr fun m _=>?_
  rw[Store.counts,Store.counts,lookup]
  cases s.campaign? m.campaignRef with
  | none=>rfl
  | some c =>
   change (date m.createdAt==d&&(if p c then f c else c).wedge==wedge)=true ↔ _
   split
   · rw[(same c).wedge]
     rfl
   · rfl
 refine ⟨inv.toAssembled.update_same same,⟨inv.total,?_,inv.mailbox,inv.apart⟩,?_,inv.late⟩
 · intro country d wedge
   rw[counts]
   exact inv.wedge country d wedge
 · intro c mem
   obtain ⟨old,there,rfl⟩:=mem_update.mp mem
   split
   · rw[(same old).campaignGroupKey,(same old).wedge]
     exact inv.grouped old there
   · exact inv.grouped old there

lemma closed_same (c:Campaign) :
 Campaign.Same c {c with membershipClosedAt:=c.membershipCloseAt}:=⟨rfl,rfl,rfl,rfl,rfl,rfl⟩

lemma left_same (lifecycle:Lifecycle)(c:Campaign) :
 Campaign.Same c {c with lifecycle:=lifecycle}:=⟨rfl,rfl,rfl,rfl,rfl,rfl⟩

/-- The campaign has left `BUILDING` or is closed. -/
def Campaign.Shut (c:Campaign):Prop:=c.lifecycle≠.building ∨ c.membershipClosedAt≠none

def Operation.Within (zones:Zones)(since:ℤ)(caps:String→ℤ→ℕ):Operation→Prop
 | .schedule call=>since≤call.capturedAt ∧
  min 3 call.dailyCap≤caps call.member.mailboxRef (zones.paris.date call.capturedAt)
 | _=>True

lemma step_cases (s:Store)(op:Operation) : ((step digests zones s op).campaigns=s.campaigns ∧
  (step digests zones s op).members=s.members) ∨
 (∃call,op=.schedule call ∧
  Admitted digests zones call.reservation s (step digests zones s op)) ∨
 ∃ (p:Campaign→Bool)(f:Campaign→Campaign),(∀c,Campaign.Same c (f c)) ∧
  (∀c:Campaign,c.Shut→Campaign.Shut (if p c then f c else c)) ∧
  step digests zones s op={s with campaigns:=update p f s.campaigns}:=by
 cases op with
 | schedule call =>
  simp only[step]
  split
  · rename_i s' result done
    rcases reserveMember_ok done with replayed|admitted
    · exact .inl replayed
    · exact .inr (.inl ⟨call,rfl,admitted⟩)
  · exact .inl ⟨rfl,rfl⟩
 | closeDueBatches now =>
  refine .inr (.inr ⟨_,_,closed_same,fun c shut=>?_,rfl⟩)
  split
  · rename_i due
    simp only[Bool.and_eq_true,beq_iff_eq] at due
    exact (shut.elim (· due.1.1) (· due.1.2)).elim
  · exact shut
 | leaveBuilding campaignRef lifecycle =>
  simp only[step,leaveBuilding]
  split
  · exact .inl ⟨rfl,rfl⟩
  · rename_i left
    refine .inr (.inr ⟨_,_,left_same lifecycle,fun c shut=>?_,rfl⟩)
    split
    · exact .inl left
    · exact shut

lemma Inv.of_rows (inv:Inv digests zones since caps s)(campaigns:s'.campaigns=s.campaigns)
 (members:s'.members=s.members):Inv digests zones since caps s':=by
 cases s
 cases s'
 cases campaigns
 cases members
 exact ⟨⟨inv.refs,inv.homes,inv.counted,inv.capacity,inv.inTime,inv.once⟩,
  ⟨inv.total,inv.wedge,inv.mailbox,inv.apart⟩,inv.grouped,inv.late⟩

lemma step_inv (distinct:Function.Injective digests.ofGroup)(regular:zones.Regular since)
 (inv:Inv digests zones since caps s){op:Operation}(within:op.Within zones since caps) :
 Inv digests zones since caps (step digests zones s op):=by
 rcases step_cases s op with ⟨campaigns,members⟩|⟨call,rfl,admitted⟩|⟨p,f,same,-,is⟩
 · exact inv.of_rows campaigns members
 · exact admitted.inv distinct regular inv within.1 rfl within.2
 · rw[is]
   exact inv.update_same same

lemma empty_inv:Inv digests zones since caps Store.empty where
 toAssembled:=empty_assembled
 total _ _:=Nat.zero_le _
 wedge _ _ _:=Nat.zero_le _
 mailbox _ _ _:=Nat.zero_le _
 apart:=List.Pairwise.nil
 grouped _ mem:=(List.not_mem_nil mem).elim
 late _ mem:=(List.not_mem_nil mem).elim

lemma reached_inv (distinct:Function.Injective digests.ofGroup)(regular:zones.Regular since)
 {ops:List Operation}(within:∀op∈ops,op.Within zones since caps) :
 Inv digests zones since caps (reached digests zones ops):=
 Runs.Along.invariant (Inv digests zones since caps)
  (fun _ _ inv ok=>step_inv distinct regular inv ok)
  (Runs.along_of_mem Store.empty fun op mem _=>within op mem) empty_inv

def Store.membersOf (s:Store)(campaignRef:String):List Member:=
 s.members.filter fun m=>m.campaignRef==campaignRef

variable (digests zones) in
lemma step_frozen (a:Assembled s){c:Campaign}(mem:c∈s.campaigns)(shut:c.Shut) (op:Operation) :
 (∃c'∈(step digests zones s op).campaigns,c'.campaignRef=c.campaignRef ∧ c'.Shut) ∧
  (step digests zones s op).membersOf c.campaignRef=s.membersOf c.campaignRef:=by
 unfold Store.membersOf
 rcases step_cases s op with ⟨campaigns,members⟩|⟨call,rfl,admitted⟩|⟨p,f,same,keeps,is⟩
 · rw[campaigns,members]
   exact ⟨⟨c,mem,rfl,shut⟩,rfl⟩
 · obtain ⟨d,campaigns,joins,is,members⟩:=admitted.joins
   obtain ⟨building,unclosed,-,-⟩:=isOpen_iff.mp joins.isOpen
   have other:c.campaignRef≠d.campaignRef:=by
    intro same
    rcases joins.among with ⟨was,-⟩|⟨fresh,-⟩
    · cases List.inj_on_of_nodup_map a.refs mem was same
      exact shut.elim (· building) (· unclosed)
    · exact fresh c mem same
   have there:c∈campaigns:=by
    rcases joins.among with ⟨-,rfl⟩|⟨-,rfl,-⟩
    · exact mem
    · exact List.mem_append_left _ mem
   constructor
   · rw[is]
     exact ⟨c,mem_update.mpr ⟨c,there,if_neg (by simpa using other)⟩,rfl,shut⟩
   · rw[members,List.filter_append]
     have elsewhere:((call.reservation.row digests d.campaignRef).campaignRef ==
       c.campaignRef)=false:=beq_eq_false_iff_ne.mpr other.symm
     rw[List.filter_cons_of_neg (by simp[elsewhere]),List.filter_nil,List.append_nil]
 · rw[is]
   refine ⟨⟨_,mem_update.mpr ⟨c,mem,rfl⟩,?_,keeps c shut⟩,rfl⟩
   split
   · exact (same c).campaignRef
   · rfl

lemma step_assembled (a:Assembled s)(op:Operation):Assembled (step digests zones s op):=by
 rcases step_cases s op with ⟨campaigns,members⟩|⟨call,rfl,admitted⟩|⟨p,f,same,-,is⟩
 · generalize step digests zones s op=s' at campaigns members
   cases s
   cases s'
   cases campaigns
   cases members
   exact ⟨a.refs,a.homes,a.counted,a.capacity,a.inTime,a.once⟩
 · exact admitted.assembled a
 · rw[is]
   exact a.update_same same

lemma reached_assembled (ops:List Operation):Assembled (reached digests zones ops):=
 Runs.invariant Assembled (fun _ op a=>step_assembled a op) ops empty_assembled

lemma frozen (a:Assembled s){c:Campaign}(mem:c∈s.campaigns)(shut:c.Shut) (ops:List Operation) :
 (ops.foldl (step digests zones) s).membersOf c.campaignRef=s.membersOf c.campaignRef:=by
 have preserved:∀t op,(Assembled t ∧ (∃c'∈t.campaigns,c'.campaignRef=c.campaignRef ∧ c'.Shut) ∧
    t.membersOf c.campaignRef=s.membersOf c.campaignRef) →
   Assembled (step digests zones t op) ∧ (∃c'∈(step digests zones t op).campaigns,
     c'.campaignRef=c.campaignRef ∧ c'.Shut) ∧
    (step digests zones t op).membersOf c.campaignRef=s.membersOf c.campaignRef:=by
  rintro t op ⟨a,⟨c',there,ref,shut⟩,members⟩
  obtain ⟨after,same⟩:=step_frozen digests zones a there shut op
  rw[ref] at after same
  exact ⟨step_assembled a op,after,same.trans members⟩
 exact (Runs.invariant _ preserved ops ⟨a,⟨c,mem,rfl,shut⟩,rfl⟩).2.2

/-- In every run of reservations, closings and departures: campaigns count
their members and hold ten at most, nobody joins late, an opportunity has one
member, and the caps of a local day and the distance between the members of a
supplier are kept. A refused reservation changes nothing. -/
theorem reservations_are_paced (distinct:Function.Injective digests.ofGroup)
 (regular:zones.Regular since)(ops:List Operation)
 (later:∀call,.schedule call∈ops→since≤call.capturedAt) :
 (∀c∈(reached digests zones ops).campaigns,
  c.reservedMemberCount=((reached digests zones ops).membersOf c.campaignRef).length ∧
   c.reservedMemberCount≤10 ∧
   ∀m∈(reached digests zones ops).membersOf c.campaignRef,
    ∃close∈c.membershipCloseAt,m.createdAt<close) ∧
 (∀js ks,js++ks=ops→∀c∈(reached digests zones js).campaigns,c.Shut →
  (reached digests zones ops).membersOf c.campaignRef =
   (reached digests zones js).membersOf c.campaignRef) ∧
 ((reached digests zones ops).members.map Member.acquisitionOpportunityId).Nodup ∧
 (∀country d,
  (reached digests zones ops).members.countP (fun m=>(zones.of country).date m.createdAt==d)≤5 ∧
   (∀wedge,(reached digests zones ops).joined.countP
    (fun row=>(zones.of country).date row.1.createdAt==d&&row.2.wedge==wedge)≤3) ∧
   ∀mailbox cap,(∀call,.schedule call∈ops→call.member.mailboxRef=mailbox →
     (zones.of country).date call.capturedAt=d→call.dailyCap≤cap) →
    (reached digests zones ops).members.countP
     (fun m=>(zones.of country).date m.createdAt==d&&m.mailboxRef==mailbox) ≤
      min 3 cap) ∧
 ((reached digests zones ops).members.Pairwise fun m m'=>
  m.supplierRef=m'.supplierRef→m.createdAt+days 30 < m'.createdAt) ∧
 ∀ (s:Store) call refusal,reserveMember digests zones call.reservation s=.error refusal →
  step digests zones s (.schedule call)=s:=by
 have three:∀op∈ops,op.Within zones since fun _ _=>3:=by
  intro op mem
  cases op with
  | schedule call=>exact ⟨later call mem,min_le_left 3 _⟩
  | closeDueBatches | leaveBuilding=>trivial
 have inv:=reached_inv distinct regular three
 refine ⟨?_,?_,inv.once,?_,inv.apart,?_⟩
 · intro c mem
   refine ⟨?_,(inv.capacity c mem).2,?_⟩
   · rw[inv.counted c mem,List.countP_eq_length_filter]
     rfl
   · intro m member
     obtain ⟨there,home⟩:=List.mem_filter.mp member
     exact inv.inTime c mem m there (beq_iff_eq.mp home)
 · rintro js ks rfl c mem shut
   unfold reached
   rw[List.foldl_append]
   exact frozen (reached_assembled js) mem shut ks
 · intro country d
   refine ⟨inv.total country d,inv.wedge country d,fun mailbox cap capped=>?_⟩
   -- only this mailbox's day is held to the cap
   have within:∀op∈ops,op.Within zones since fun ref day=>
     if ref=mailbox ∧ day=d then min 3 cap else 3:=by
    intro op mem
    cases op with
    | schedule call =>
     refine ⟨later call mem,?_⟩
     beta_reduce
     split
     · rename_i is
       have date:=regular.date_of country (later call mem)
       have less:=capped call mem is.1 (date.trans is.2)
       omega
     · exact min_le_left 3 _
    | closeDueBatches | leaveBuilding=>trivial
   have held:=(reached_inv distinct regular within).mailbox country d mailbox
   rwa[if_pos ⟨rfl,rfl⟩] at held
 · intro s call refusal refused
   simp only[step,refused]

def fixedZone (offset:ℤ):Zone where
 clock t:=((t+offset)/days 1,(t+offset)%days 1)
 instant date time:=days date+time-offset

lemma fixedZone_regular (offset since:ℤ):(fixedZone offset).Regular since where
 midnight d _:=by
  have day:days 1=86400000000:=rfl
  have dates:days d=d*86400000000:=by unfold days hours seconds;omega
  simp only[fixedZone,day,dates]
  refine Prod.ext ?_ ?_ <;> omega
 begins d t _ _:=by
  have day:days 1=86400000000:=rfl
  have dates:days d=d*86400000000:=by unfold days hours seconds;omega
  simp only[fixedZone,Zone.date,day,dates]
  omega

def Country.text:Country→String
 | .ch=>"CH"
 | .fr=>"FR"

def Language.text:Language→String
 | .fr=>"fr"
 | .en=>"en"

lemma Country.text_injective:Function.Injective Country.text:=by
 intro a b same
 cases a <;> cases b <;> first | rfl | exact absurd same (by decide)

lemma Language.text_injective:Function.Injective Language.text:=by
 intro a b same
 cases a <;> cases b <;> first | rfl | exact absurd same (by decide)

def sampleDigests:Digests where
 ofGroup d:=Texts.listed [d.wedge,d.wedgeVersion,d.jurisdiction.text,d.country.text,
  d.language.text,d.selectedNeedCategory,d.selectedNeedVersion,
  d.personalizationCatalogVersion,d.personalizationTemplateVersion,d.languagePolicyVersion,
  d.envelopeCatalogVersion,d.senderProfileRef,d.mailboxPoolVersion,
  d.complianceRulesetFingerprint]
 ofCampaign key generation:=String.ofList (List.replicate generation 'g')++key
 ofMember opportunity:=opportunity
 ofOperation kind campaignRef memberRef fingerprint:=
  Texts.listed [if kind=.addLead then "l" else if kind=.createCampaign then "c" else "p",
   campaignRef,memberRef.getD "",fingerprint]

lemma sampleDigests_distinct:Function.Injective sampleDigests.ofGroup:=by
 intro d e same
 have texts:=Texts.listed_injective same
 simp only[List.cons.injEq,and_true] at texts
 obtain ⟨a1,a2,a3,a4,a5,a6,a7,a8,a9,a10,a11,a12,a13,a14⟩:=texts
 cases d
 cases e
 simp_all[Country.text_injective.eq_iff,Language.text_injective.eq_iff]

def sampleInput (country:Country)(wedge:String)(date:ℤ):CampaignFactoryInput where
 wedge
 wedgeVersion:=""
 jurisdiction:=country
 country
 language:=.fr
 selectedNeedCategory:=""
 selectedNeedVersion:=""
 personalizationCatalogVersion:=""
 personalizationTemplateVersion:=""
 languagePolicyVersion:=""
 envelopeCatalogVersion:=""
 senderProfileRef:=""
 mailboxPoolVersion:=""
 complianceRulesetFingerprint:=""
 step1ExecutionDate:=date

def sampleCall (country:Country)(wedge name mailbox:String)(date capturedAt:ℤ) : ScheduledCall where
 factoryInput:=sampleInput country wedge date
 member:={
  acquisitionOpportunityId:=name
  supplierRef:=name
  contactRef:=name
  policyEvaluationId:=name
  inputFingerprint:=name
  envelopeFingerprint:=name
  policyActionFingerprint:=name
  mailboxRef:=mailbox}
 providerWorkspaceRef:="w"
 providerConfigFingerprint:="p"
 capturedAt
 campaignRef:=sampleDigests.ofCampaign
  (sampleDigests.ofGroup (sampleInput country wedge date).toDimensions) 1
 requestId:=name
 kivouDailyCap:=3
 providerDailyLimit:=30

def winterZones:Zones:=⟨fixedZone (hours 1),fixedZone (hours 1)⟩

lemma winterZones_regular (since:ℤ):winterZones.Regular since:=
 ⟨fixedZone_regular _ _,fixedZone_regular _ _,fun _ _=>rfl⟩

def winterMorning:ℤ:=days 739628+hours 9

def winterRun:List Operation:=[.schedule (sampleCall .ch "c" "a" "1" 739629 winterMorning),
  .schedule (sampleCall .fr "c" "b" "1" 739629 (winterMorning+seconds 60)),
  .schedule (sampleCall .ch "c" "c" "2" 739629 (winterMorning+seconds 900)),
  .closeDueBatches (winterMorning+seconds 901)]

theorem reservations_are_paced_in_winter :
 (reached sampleDigests winterZones winterRun).members.length=2 ∧
  (reached sampleDigests winterZones winterRun).members.countP
   (fun m=>winterZones.zurich.date m.createdAt==739628)≤5:=by
 have later:∀call,.schedule call∈winterRun→winterMorning≤call.capturedAt:=by
  intro call mem
  simp only[winterRun,List.mem_cons,Operation.schedule.injEq,reduceCtorEq,List.not_mem_nil,
   or_false] at mem
  rcases mem with rfl|rfl|rfl
  · decide
  · decide
  · decide
 have paced:=reservations_are_paced sampleDigests_distinct (winterZones_regular winterMorning)
  winterRun later
 exact ⟨by decide +kernel,(paced.2.2.2.1 .ch 739628).1⟩

def summerZones:Zones:=⟨fixedZone (hours 1),fixedZone (hours 2)⟩

def summerEvening:ℤ:=days 722280+hours 20

def summerRun:List Operation:=[.schedule (sampleCall .ch "c" "a" "1" 722282 summerEvening),
  .schedule (sampleCall .ch "c" "b" "1" 722282 summerEvening),
  .schedule (sampleCall .ch "c" "c" "1" 722282 summerEvening),
  .schedule (sampleCall .ch "s" "d" "2" 722282 summerEvening),
  .schedule (sampleCall .ch "s" "e" "2" 722282 summerEvening),
  .schedule (sampleCall .fr "c" "f" "3" 722282 (summerEvening+hours 2+seconds 1800))]

/-- A local day of Zurich holds six members. -/
theorem zones_apart_exceed_the_cap :
 ¬ ∀country d,(reached sampleDigests summerZones summerRun).members.countP
  (fun m=>(summerZones.of country).date m.createdAt==d)≤5:=by
 intro held
 have six:(reached sampleDigests summerZones summerRun).members.countP
   (fun m=>(summerZones.of .ch).date m.createdAt==722280)=6:=by decide +kernel
 have five:=held .ch 722280
 omega

end Kivou.Campaigns
