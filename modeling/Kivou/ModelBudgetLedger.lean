import Kivou.ModelBudget
import Kivou.Runs
import Mathlib.Algebra.Order.BigOperators.Group.List

set_option autoImplicit false

/-! The counters are the totals of the journal. The law holds for amounts Python adds exactly and
caps the column can represent; the last theorem shows what happens below those decimals. -/
namespace Kivou.ModelBudgetLedger
open PythonValues Decimals ModelBudget

/-- A value of a `NUMERIC(14, 8)` column that is not negative. -/
structure Amount (q:ℚ):Prop where
 onScale:OnScale 8 q
 nonneg:0≤q
 lt:q<10^6

lemma Amount.zero:Amount 0:=⟨onScale_zero 8,le_refl 0,by norm_num⟩

variable {q r a b:ℚ}

lemma amount_of_usd (h:usd q=some r)(hr:0≤r):Amount r:=by
 have he:=numeric_eq h
 exact ⟨he ▸ onScale_roundTo 8 q,hr,by simpa using numeric_lt h⟩

lemma usd_eq (h:usd q=some r)(hq:0≤q):r=roundTo 8 q ∧ Amount r:=by
 have he:=numeric_eq h
 exact ⟨he,amount_of_usd h (he ▸ roundTo_nonneg hq)⟩

lemma usd_add (ha:Amount a)(hb:0≤b)(hs:OnScale 22 b)(h:usd (add a b)=some r) :
 r=a+roundTo 8 b ∧ Amount r ∧ a+b<10^6:=by
 have total:0≤a+b:=add_nonneg ha.nonneg hb
 have he:r=roundTo 8 (add a b):=numeric_eq h
 have small:a+b<10^6:=by
  by_contra large
  have kept:(10:ℚ)^6≤add a b:=le_significant (by norm_num) (not_lt.mp large)
  have stored:=le_roundTo (onScale_pow 8 6) (by positivity) kept
  have bound:r<10^6:=by simpa using numeric_lt h
  rw[he] at bound
  exact absurd bound (not_lt.mpr stored)
 have exact_:add a b=a+b:=
  significant_eq_self total small ((ha.onScale.mono (by norm_num)).add hs) (by norm_num)
 have value:r=a+roundTo 8 b:=by
  rw[he,exact_,roundTo_add ha.onScale ha.nonneg hb]
 exact ⟨value,amount_of_usd h (value ▸ add_nonneg ha.nonneg (roundTo_nonneg hb)),small⟩

lemma usd_sub (ha:Amount a)(hb:Amount b)(hba:b≤a)(h:usd (sub a b)=some r) : r=a-b ∧ Amount r:=by
 have rest:0≤a-b:=sub_nonneg.mpr hba
 have small:a-b<10^6:=by linarith [ha.lt,hb.nonneg]
 have scale:OnScale 8 (a-b):=ha.onScale.sub hb.onScale
 have exact_:sub a b=a-b:=significant_eq_self rest small scale (by norm_num)
 have value:r=a-b:=by
  rw[numeric_eq h,exact_,roundTo_eq_self scale]
 exact ⟨value,amount_of_usd h (value ▸ rest)⟩

lemma cap_respected {c:ℚ}(ha:Amount a)(hb:Amount b)(hq:0≤q)
 (hc:OnScale 8 c)(small:b+q<10^6)(h:add (add a b) q≤c) :
 a+(b+roundTo 8 q)≤c:=by
 have both:add a b=a+b:=by
  refine significant_eq_self (m:=7) (add_nonneg ha.nonneg hb.nonneg) ?_
   (ha.onScale.add hb.onScale) (by norm_num)
  linarith [ha.lt,hb.lt]
 have total:0≤a+b+q:=add_nonneg (add_nonneg ha.nonneg hb.nonneg) hq
 have bound:a+b+q<10^7:=by linarith [ha.lt]
 have error:=le_significant_add (d:=28) total bound (by norm_num)
 rw[both] at h
 have close:a+b+q<c+unit 8/2:=by
  have fine:unit (28-7)<unit 8:=by norm_num [unit]
  have sum:significant 28 (a+b+q)≤c:=h
  linarith
 have rounded:=roundTo_le_of_lt total hc close
 rw[roundTo_add (ha.onScale.add hb.onScale) (add_nonneg ha.nonneg hb.nonneg) hq] at rounded
 linarith

structure Balanced (day:ℤ→ℤ)(L:Ledger):Prop where
 counterKeys:(L.counters.map Counter.key).Nodup
 callIds:(L.calls.map Call.callId).Nodup
 counters:∀c∈L.counters,Amount c.reservedUsd ∧ Amount c.actualUsd
 calls:∀c∈L.calls,Amount c.reservedUsd
 reserved:∀d u,reservedUsd L d u=(L.calls.map (outstanding day d u)).sum
 actual:∀d u,actualUsd L d u=(L.calls.map (spent day d u)).sum

variable {day:ℤ→ℤ}{L:Ledger}{counter:Counter}{call:Call}
variable {d now:ℤ}{u:ModelUsage}{f:Counter → Counter}{g:Call→Call}

lemma balanced_empty:Balanced day empty:=
 ⟨List.nodup_nil,List.nodup_nil,fun _ h=>(by cases h),fun _ h=>(by cases h),
  fun _ _=>rfl,fun _ _=>rfl⟩

lemma findCounter_mem (h:findCounter L d u=some counter) :
 counter∈L.counters ∧ counter.key=(d,u):=Tables.find?_key h

lemma reservedUsd_of_find (h:findCounter L d u=some counter) :
 reservedUsd L d u=counter.reservedUsd:=by
 simp[reservedUsd,h]

lemma findCounter_setCounter (kept:∀c,(f c).key=c.key)(e:ℤ)(v:ModelUsage) :
 findCounter (setCounter L d u f) e v =
  if (e,v)=(d,u) then (findCounter L d u).map f else findCounter L e v:=
 Tables.find?_update kept (e,v)

lemma findCounter_ensureCounter (L:Ledger)(d:ℤ)(u:ModelUsage)(now e:ℤ) (v:ModelUsage) :
 findCounter (ensureCounter L d u now) e v=findCounter L e v ∨ findCounter L e v=none ∧
   findCounter (ensureCounter L d u now) e v=some ⟨d,u,0,0,now⟩:=by
 unfold ensureCounter
 split
 · exact .inl rfl
 · rename_i absent
   have fresh:∀c∈L.counters,c.key≠Counter.key ⟨d,u,0,0,now⟩:=by
    simpa[findCounter,Counter.key] using absent
   have found:=Tables.find?_append_fresh fresh (e,v)
   by_cases here:(e,v)=Counter.key ⟨d,u,0,0,now⟩
   · rw[if_pos here] at found
     cases here
     exact .inr ⟨by simpa using absent,found⟩
   · rw[if_neg here] at found
     exact .inl found

lemma reservedUsd_ensureCounter (e:ℤ)(v:ModelUsage) :
 reservedUsd (ensureCounter L d u now) e v=reservedUsd L e v:=by
 rcases findCounter_ensureCounter L d u now e v with same|⟨none,some⟩
 · simp[reservedUsd,same]
 · simp[reservedUsd,none,some]

lemma actualUsd_ensureCounter (e:ℤ)(v:ModelUsage) :
 actualUsd (ensureCounter L d u now) e v=actualUsd L e v:=by
 rcases findCounter_ensureCounter L d u now e v with same|⟨none,some⟩
 · simp[actualUsd,same]
 · simp[actualUsd,none,some]

lemma ensureCounter_calls:(ensureCounter L d u now).calls=L.calls:=by
 unfold ensureCounter
 split <;> rfl

lemma Balanced.ensureCounter (B:Balanced day L)(d:ℤ)(u:ModelUsage)(now:ℤ) :
 Balanced day (ensureCounter L d u now):=by
 refine ⟨?_,?_,?_,?_,fun e v=>?_,fun e v=>?_⟩
 · unfold ModelBudget.ensureCounter
   split
   · exact B.counterKeys
   · rename_i absent
     refine Tables.nodup_append_fresh B.counterKeys ?_
     simpa[findCounter,Counter.key] using absent
 · rw[ensureCounter_calls]
   exact B.callIds
 · unfold ModelBudget.ensureCounter
   split
   · exact B.counters
   · intro c hc
     rcases List.mem_append.mp hc with old|new
     · exact B.counters c old
     · rw[List.mem_singleton.mp new]
       exact ⟨Amount.zero,Amount.zero⟩
 · rw[ensureCounter_calls]
   exact B.calls
 · rw[reservedUsd_ensureCounter,ensureCounter_calls]
   exact B.reserved e v
 · rw[actualUsd_ensureCounter,ensureCounter_calls]
   exact B.actual e v

lemma outstanding_nonneg (B:Balanced day L){c:Call}(hc:c∈L.calls) : 0≤outstanding day d u c:=by
 unfold outstanding
 split
 · exact (B.calls c hc).nonneg
 · exact le_refl 0

lemma Balanced.reservedUsd_nonneg (B:Balanced day L):0≤reservedUsd L d u:=by
 rw[B.reserved d u]
 refine List.sum_nonneg fun x hx=>?_
 obtain ⟨c,hc,rfl⟩:=List.mem_map.mp hx
 exact outstanding_nonneg B hc

lemma activeCall_mem {callId:String}(h:activeCall L callId=some call) :
 call∈L.calls ∧ call.callId=callId ∧ call.status=.reserved:=by
 simp only[activeCall,Option.filter_eq_some_iff,beq_iff_eq] at h
 exact ⟨(Tables.find?_key h.1).1,(Tables.find?_key h.1).2,h.2⟩

lemma Balanced.reserved_le (B:Balanced day L)(hm:call∈L.calls) (active:call.status=.reserved)
 (found:findCounter L (day call.calledAt) call.usage=some counter) :
 call.reservedUsd≤counter.reservedUsd:=by
 have part:outstanding day (day call.calledAt) call.usage call=call.reservedUsd:=by
  simp[outstanding,active]
 rw[←reservedUsd_of_find found,B.reserved,←part]
 refine List.single_le_sum (fun x hx=>?_) _ (List.mem_map_of_mem hm)
 obtain ⟨c,hc,rfl⟩:=List.mem_map.mp hx
 exact outstanding_nonneg B hc

lemma insertCall_ok {row:Call}{M:Ledger}(h:insertCall L row=some M) :
 ∃stored,usd row.reservedUsd=some stored ∧
  (∀c∈L.calls,c.callId≠Call.callId {row with reservedUsd:=stored}) ∧
  M={L with calls:=L.calls++[{row with reservedUsd:=stored}]}:=by
 simp only[insertCall,Option.bind_eq_bind,Option.bind_eq_some_iff] at h
 obtain ⟨stored,hs,h⟩:=h
 split at h
 · cases h
 · rename_i absent
   cases h
   exact ⟨stored,hs,by simpa[findCall] using absent,rfl⟩

lemma Balanced.insert {row:Call}(B:Balanced day L)
 (fresh:∀c∈L.calls,c.callId≠row.callId)(amount:Amount row.reservedUsd)
 {M:Ledger}(calls:M.calls=L.calls++[row])
 (keys:M.counters.map Counter.key=L.counters.map Counter.key)
 (amounts:∀c∈M.counters,Amount c.reservedUsd ∧ Amount c.actualUsd)
 (reserved:∀d u,reservedUsd M d u=reservedUsd L d u+outstanding day d u row)
 (actual:∀d u,actualUsd M d u=actualUsd L d u+spent day d u row):Balanced day M:=by
 refine ⟨keys ▸ B.counterKeys,?_,amounts,?_,fun d u=>?_,fun d u=>?_⟩
 · rw[calls]
   exact Tables.nodup_append_fresh B.callIds fresh
 · intro c hc
   rw[calls] at hc
   rcases List.mem_append.mp hc with old|new
   · exact B.calls c old
   · rw[List.mem_singleton.mp new]
     exact amount
 · rw[reserved,B.reserved,calls,List.map_append,List.sum_append,List.map_singleton,
    List.sum_singleton]
 · rw[actual,B.actual,calls,List.map_append,List.sum_append,List.map_singleton,List.sum_singleton]

lemma setCounter_amounts (B:Balanced day L)
 (amounts:∀c∈L.counters,c.key=(d,u)→Amount (f c).reservedUsd ∧ Amount (f c).actualUsd) :
 ∀c∈(setCounter L d u f).counters,Amount c.reservedUsd ∧ Amount c.actualUsd:=by
 intro c hc
 obtain ⟨old,hm,rfl⟩:=Tables.mem_update.mp hc
 split
 · rename_i here
   exact amounts old hm (by simpa using here)
 · exact B.counters old hm

lemma setCounter_keys (kept:∀c,(f c).key=c.key) :
 (setCounter L d u f).counters.map Counter.key=L.counters.map Counter.key:=
 Tables.map_key_update fun c _ _=>kept c

lemma Balanced.settle (B:Balanced day L){callId:String}{x:ℚ} (active:activeCall L callId=some call)
 (found:findCounter L (day call.calledAt) call.usage=some counter)
 (keepKey:∀c,(f c).key=c.key)(keepId:∀c,(g c).callId=c.callId)
 (reserved:(f counter).reservedUsd=counter.reservedUsd-call.reservedUsd)
 (actual:(f counter).actualUsd=counter.actualUsd+x)
 (amounts:Amount (f counter).reservedUsd ∧ Amount (f counter).actualUsd)
 (amount:(g call).reservedUsd=call.reservedUsd)
 (closed:∀d u,outstanding day d u (g call)=0)
 (spending:∀d u,spent day d u (g call) =
  if (d,u)=(day call.calledAt,call.usage) then x else 0) :
 Balanced day (setCall (setCounter L (day call.calledAt) call.usage f) callId g):=by
 obtain ⟨hm,hid,status⟩:=activeCall_mem active
 obtain ⟨hcm,hkey⟩:=findCounter_mem found
 have only:∀c∈L.counters,c.key=(day call.calledAt,call.usage)→c=counter:=
  fun c hc same=>List.inj_on_of_nodup_map B.counterKeys hc hcm (same.trans hkey.symm)
 subst hid
 have ids:(setCall (setCounter L (day call.calledAt) call.usage f) call.callId g).calls.map
   Call.callId=L.calls.map Call.callId:=Tables.map_key_update fun c _ _=>keepId c
 have total:∀h:Call→ℚ,
   ((setCall (setCounter L (day call.calledAt) call.usage f) call.callId g).calls.map h).sum =
    (L.calls.map h).sum-h call+h (g call):=fun h=>Tables.sum_update h B.callIds hm
 have lookup:=fun d u=>findCounter_setCounter (L:=L) (d:=day call.calledAt)
  (u:=call.usage) keepKey d u
 refine ⟨?_,ids ▸ B.callIds,?_,?_,fun d u=>?_,fun d u=>?_⟩
 · exact (setCounter_keys keepKey).symm ▸ B.counterKeys
 · exact setCounter_amounts B fun c hc same=>only c hc same ▸ amounts
 · intro c hc
   obtain ⟨old,ho,rfl⟩:=Tables.mem_update.mp hc
   split
   · rename_i here
     obtain rfl:old=call:=List.inj_on_of_nodup_map B.callIds ho hm (by simpa using here)
     exact amount ▸ B.calls old ho
   · exact B.calls old ho
 · change reservedUsd (setCounter L (day call.calledAt) call.usage f) d u=_
   rw[total,closed,add_zero,←B.reserved]
   by_cases here:(d,u)=(day call.calledAt,call.usage)
   · cases here
     simp[reservedUsd,lookup,found,reserved,outstanding,status]
   · have other:¬(day call.calledAt=d ∧ call.usage=u):=by
      rintro ⟨rfl,rfl⟩
      exact here rfl
     simp[reservedUsd,lookup,here,outstanding,other]
 · change actualUsd (setCounter L (day call.calledAt) call.usage f) d u=_
   have unspent:spent day d u call=0:=by simp[spent,status]
   rw[total,spending,unspent,sub_zero,←B.actual]
   by_cases here:(d,u)=(day call.calledAt,call.usage)
   · cases here
     simp[actualUsd,lookup,found,actual]
   · simp[actualUsd,lookup,here]

lemma guard_bind_some {c:Prop}[Decidable c]{α:Type}{k:Unit→Option α}{x:α} :
 ((guard c:Option Unit) >>= k)=some x ↔ c ∧ k ()=some x:=by
 by_cases h:c <;> simp[h]

variable {M:Ledger}{out:Outcome}{route:ModelRoute}{callId:String}
variable {siren batchId:Option String}

/-- The journal row of a reservation whose cost was stored as `stored`. -/
structure Journaled (now:ℤ)(route:ModelRoute)(stored:ℚ)(status:CallStatus) (row:Call):Prop where
 reservedUsd:row.reservedUsd=stored
 usage:row.usage=route.usage
 calledAt:row.calledAt=now
 status:row.status=status

lemma reserve_ok (h:reserve day now route q callId siren batchId L=some (M,out)) :
 0≤q ∧ ∃counter stored row,
  findCounter (ensureCounter L (day now) route.usage now) (day now) route.usage =some counter ∧
  usd q=some stored ∧ (∀c∈L.calls,c.callId≠row.callId) ∧
  ((out≠.done ∧ Journaled now route stored .rejectedBudget row ∧
    M=⟨(ensureCounter L (day now) route.usage now).counters,L.calls++[row]⟩) ∨
   ∃total,out=.done ∧ Journaled now route stored .reserved row ∧
    add (add counter.actualUsd counter.reservedUsd) q≤route.dailyBudgetUsd ∧
    usd (add counter.reservedUsd q)=some total ∧
    M=⟨(setCounter (ensureCounter L (day now) route.usage now) (day now) route.usage
     (fun c=>{c with reservedUsd:=total,updatedAt:=now})).counters,
     L.calls++[row]⟩):=by
 simp only[reserve,guard_bind_some] at h
 obtain ⟨nonneg,h⟩:=h
 obtain ⟨counter,found,h⟩:=Option.bind_eq_some_iff.mp h
 refine ⟨nonneg,counter,?_⟩
 split at h
 · obtain ⟨N,inserted,h⟩:=Option.bind_eq_some_iff.mp h
   cases h
   obtain ⟨stored,hs,fresh,rfl⟩:=insertCall_ok inserted
   rw[ensureCounter_calls] at fresh
   refine ⟨stored,_,found,hs,fresh,.inl ⟨by simp,⟨rfl,rfl,rfl,rfl⟩,?_⟩⟩
   rw[ensureCounter_calls]
 · rename_i fits
   obtain ⟨total,ht,h⟩:=Option.bind_eq_some_iff.mp h
   obtain ⟨N,inserted,h⟩:=Option.bind_eq_some_iff.mp h
   cases h
   obtain ⟨stored,hs,fresh,rfl⟩:=insertCall_ok inserted
   have calls:(setCounter (ensureCounter L (day now) route.usage now) (day now) route.usage
     (fun c=>{c with reservedUsd:=total,updatedAt:=now})).calls=L.calls:=
    ensureCounter_calls
   rw[calls] at fresh
   refine ⟨stored,_,found,hs,fresh,.inr ⟨total,rfl,⟨rfl,rfl,rfl,rfl⟩,not_lt.mp fits,ht,?_⟩⟩
   rw[calls]

lemma Journaled.outstanding {stored:ℚ}{status:CallStatus}{row:Call}
 (j:Journaled now route stored status row)(d:ℤ)(u:ModelUsage) :
 outstanding day d u row =
  if status=.reserved ∧ (d,u)=(day now,route.usage) then stored else 0:=by
 simp only[ModelBudget.outstanding,j.status,j.calledAt,j.usage,j.reservedUsd,Prod.mk.injEq,eq_comm]

lemma Journaled.spent {stored:ℚ}{status:CallStatus}{row:Call}
 (j:Journaled now route stored status row)(ne:status≠.succeeded)(d:ℤ)
 (u:ModelUsage):spent day d u row=0:=by
 simp[ModelBudget.spent,j.status,ne]

lemma reserve_balanced (B:Balanced day L)(scale:OnScale 22 q)
 (h:reserve day now route q callId siren batchId L=some (M,out)) :
 Balanced day M ∧ (out=.done→OnScale 8 route.dailyBudgetUsd →
   actualUsd M (day now) route.usage+reservedUsd M (day now) route.usage ≤route.dailyBudgetUsd) ∧
  (out≠.done→∀d u,reservedUsd M d u=reservedUsd L d u ∧
   actualUsd M d u=actualUsd L d u):=by
 obtain ⟨nonneg,counter,stored,row,found,hs,fresh,result⟩:=reserve_ok h
 have B':=B.ensureCounter (day now) route.usage now
 obtain ⟨value,amount⟩:=usd_eq hs nonneg
 have fresh':∀c∈(ensureCounter L (day now) route.usage now).calls,c.callId≠row.callId:=by
  rwa[ensureCounter_calls]
 rcases result with ⟨rejected,j,rfl⟩|⟨total,rfl,j,fits,ht,rfl⟩
 · refine ⟨B'.insert fresh' (j.reservedUsd ▸ amount) (by rw[ensureCounter_calls]) rfl B'.counters
    (fun d u=>?_) (fun d u=>?_),fun done=>absurd done rejected,fun _ d u=>?_⟩
   · simp[j.outstanding,reservedUsd,findCounter]
   · simp[j.spent,actualUsd,findCounter]
   · exact ⟨reservedUsd_ensureCounter d u,actualUsd_ensureCounter d u⟩
 · obtain ⟨hm,hkey⟩:=findCounter_mem found
   obtain ⟨hr,ha⟩:=B'.counters counter hm
   obtain ⟨rfl,stored',small⟩:=usd_add hr nonneg scale ht
   have kept:∀c:Counter,Counter.key {c with
     reservedUsd:=counter.reservedUsd+roundTo 8 q,updatedAt:=now}=c.key:=fun _=>rfl
   have lookup:=fun d u=>findCounter_setCounter
    (L:=ensureCounter L (day now) route.usage now) (d:=day now) (u:=route.usage) kept d u
   refine ⟨B'.insert fresh' (j.reservedUsd ▸ amount) (by rw[ensureCounter_calls])
    (setCounter_keys kept) ?_ (fun d u=>?_) (fun d u=>?_),fun _ capped=>?_,
    fun other=>absurd rfl other⟩
   · refine setCounter_amounts B' fun c hc same=>⟨stored',?_⟩
     exact (B'.counters c hc).2
   · change reservedUsd (setCounter _ (day now) route.usage _) d u=_
     by_cases here:(d,u)=(day now,route.usage)
     · cases here
       simp[reservedUsd,lookup,found,j.outstanding,value]
     · simp[reservedUsd,lookup,here,j.outstanding]
   · change actualUsd (setCounter _ (day now) route.usage _) d u=_
     rw[j.spent (by decide),add_zero]
     by_cases here:(d,u)=(day now,route.usage)
     · cases here
       simp[actualUsd,lookup,found]
     · simp[actualUsd,lookup,here]
   · change actualUsd (setCounter _ (day now) route.usage _) (day now) route.usage +
      reservedUsd (setCounter _ (day now) route.usage _) (day now) route.usage≤_
     have bound:=cap_respected ha hr nonneg capped small fits
     simpa[actualUsd,reservedUsd,lookup,found] using bound

lemma succeed_balanced {inputTokens outputTokens:ℤ}(B:Balanced day L)(scale:OnScale 22 q)
 (h:succeed day now callId q inputTokens outputTokens L=some (M,out)) :
 Balanced day M ∧ out=.done:=by
 simp only[succeed,guard_bind_some] at h
 obtain ⟨nonneg,-,h⟩:=h
 obtain ⟨call,active,h⟩:=Option.bind_eq_some_iff.mp h
 obtain ⟨counter,found,h⟩:=Option.bind_eq_some_iff.mp h
 obtain ⟨reservedTotal,hr,h⟩:=Option.bind_eq_some_iff.mp h
 obtain ⟨-,h⟩:=guard_bind_some.mp h
 obtain ⟨actualTotal,ha,h⟩:=Option.bind_eq_some_iff.mp h
 obtain ⟨actual,hs,h⟩:=Option.bind_eq_some_iff.mp h
 cases h
 obtain ⟨hm,-,status⟩:=activeCall_mem active
 obtain ⟨reserved,spentBefore⟩:=B.counters counter (findCounter_mem found).1
 obtain ⟨rest,restAmount⟩:=usd_sub reserved (B.calls call hm) (B.reserved_le hm status found) hr
 obtain ⟨total,totalAmount,-⟩:=usd_add spentBefore nonneg scale ha
 obtain ⟨value,-⟩:=usd_eq hs nonneg
 refine ⟨B.settle active found (fun _=>rfl) (fun _=>rfl) rest total ⟨restAmount,totalAmount⟩
  rfl (fun d u=>?_) (fun d u=>?_),rfl⟩
 · simp[outstanding]
 · simp only[spent,true_and,Option.getD_some,value,Prod.mk.injEq,eq_comm]

lemma fail_balanced {errorCode:String}(B:Balanced day L)
 (h:fail day now callId errorCode L=some (M,out)):Balanced day M ∧ out=.done:=by
 simp only[fail,guard_bind_some] at h
 obtain ⟨-,h⟩:=h
 obtain ⟨call,active,h⟩:=Option.bind_eq_some_iff.mp h
 obtain ⟨counter,found,h⟩:=Option.bind_eq_some_iff.mp h
 obtain ⟨reservedTotal,hr,h⟩:=Option.bind_eq_some_iff.mp h
 obtain ⟨-,h⟩:=guard_bind_some.mp h
 cases h
 obtain ⟨hm,-,status⟩:=activeCall_mem active
 obtain ⟨reserved,spentBefore⟩:=B.counters counter (findCounter_mem found).1
 obtain ⟨rest,restAmount⟩:=usd_sub reserved (B.calls call hm) (B.reserved_le hm status found) hr
 refine ⟨B.settle active found (fun _=>rfl) (fun _=>rfl) rest (add_zero _).symm
  ⟨restAmount,spentBefore⟩ rfl (fun d u=>?_) (fun d u=>?_),rfl⟩
 · simp[outstanding]
 · simp[spent]

def Representable (r:Request):Prop:=
 match r.operation with
 | .reserve route estimatedUsd _ _ _=>OnScale 22 estimatedUsd ∧ OnScale 8 route.dailyBudgetUsd
 | .succeed _ actualUsd _ _=>OnScale 22 actualUsd
 | .fail _ _=>True

structure Kept (day:ℤ→ℤ)(L:Ledger)(r:Request)(after:Ledger × Outcome):Prop where
 balanced:Balanced day after.1
 capped:∀route estimatedUsd callId siren batchId,
  r.operation=.reserve route estimatedUsd callId siren batchId→after.2=.done →
   actualUsd after.1 (day r.clock.toUtc.wall) route.usage +
    reservedUsd after.1 (day r.clock.toUtc.wall) route.usage≤route.dailyBudgetUsd
 unchanged:after.2≠.done→∀d u,reservedUsd after.1 d u=reservedUsd L d u ∧
  actualUsd after.1 d u=actualUsd L d u

lemma execute_kept {r:Request}(B:Balanced day L)(decimals:Representable r) :
 Kept day L r (execute day L r):=by
 unfold execute
 cases h:attempt day r L with
 | none=>exact ⟨B,fun _ _ _ _ _ _ raised=>(by cases raised),fun _ _ _=>⟨rfl,rfl⟩⟩
 | some after =>
  obtain ⟨M,out⟩:=after
  simp only[attempt,guard_bind_some] at h
  obtain ⟨-,h⟩:=h
  unfold Representable at decimals
  split at h
  · rename_i route estimatedUsd callId siren batchId hop
    rw[hop] at decimals
    obtain ⟨balanced,capped,unchanged⟩:=reserve_balanced B decimals.1 h
    refine ⟨balanced,fun route' _ _ _ _ same done=>?_,unchanged⟩
    rw[hop] at same
    cases same
    exact capped done decimals.2
  · rename_i callId actualUsd inputTokens outputTokens hop
    rw[hop] at decimals
    obtain ⟨balanced,rfl⟩:=succeed_balanced B decimals h
    refine ⟨balanced,fun _ _ _ _ _ same=>?_,fun other=>absurd rfl other⟩
    rw[hop] at same
    cases same
  · rename_i callId errorCode hop
    obtain ⟨balanced,rfl⟩:=fail_balanced B h
    refine ⟨balanced,fun _ _ _ _ _ same=>?_,fun other=>absurd rfl other⟩
    rw[hop] at same
    cases same

/-- After every run, for every day and usage, the counter is the total of the
open reservations and of the spending the journal holds for that day; and the
next operation either stays under its cap or leaves every counter as it was. -/
theorem budget_conserved (day:ℤ→ℤ)(requests:List Request) (decimals:∀r∈requests,Representable r) :
 (∀d u,reservedUsd (run day requests) d u =
   ((run day requests).calls.map (outstanding day d u)).sum ∧
  actualUsd (run day requests) d u=((run day requests).calls.map (spent day d u)).sum ∧
  0≤reservedUsd (run day requests) d u) ∧
 ∀r,Representable r→Kept day (run day requests) r (execute day (run day requests) r):=by
 have along:Runs.Along (fun L r=>(execute day L r).1) (fun _ r=>Representable r) empty
   requests:=Runs.along_of_mem empty fun r hr _=>decimals r hr
 have balanced:Balanced day (run day requests):=
  along.invariant (Balanced day) (fun _ _ B decimals=>(execute_kept B decimals).balanced)
   balanced_empty
 exact ⟨fun d u=>⟨balanced.reserved d u,balanced.actual d u,balanced.reservedUsd_nonneg⟩,
  fun r hr=>execute_kept balanced hr⟩

def sampleRequest (day:ℤ)(operation:Operation):Request:=
 ⟨⟨(day*24+12)*3600000000,some 0⟩,operation,false⟩

def sampleDay (instant:ℤ):ℤ:=instant/86400000000

def sampleReserve (capUsd estimatedUsd:ℚ)(callId:String):Operation:=
 .reserve ⟨.forYou,"openai/gpt",capUsd⟩ estimatedUsd callId none none

/-- One reservation is open when a second is rejected; the first is settled the
day after, on the counter of its own day. -/
theorem budget_conserved_sample :
 let requests:=[sampleRequest 0 (sampleReserve 1 (3/5) "c1"),
  sampleRequest 0 (sampleReserve 1 (1/2) "c2"),
  sampleRequest 1 (.succeed "c1" (1/4) 100 20)]
 actualUsd (run sampleDay requests) 0 .forYou=1/4 ∧
  reservedUsd (run sampleDay requests) 0 .forYou=0 ∧
  reservedUsd (run sampleDay requests) 0 .forYou =
   ((run sampleDay requests).calls.map (outstanding sampleDay 0 .forYou)).sum:=by
 intro requests
 have decimals:∀r∈requests,Representable r:=by
  simp only[requests,List.forall_mem_cons]
  refine ⟨⟨⟨6*10^21,?_⟩,onScale_one 8⟩,⟨⟨5*10^21,?_⟩,onScale_one 8⟩,
   ⟨25*10^20,?_⟩,by simp⟩ <;> norm_num [unit]
 exact ⟨by decide +kernel,by decide +kernel,
  ((budget_conserved sampleDay requests decimals).1 0 .forYou).1⟩

/-- A cap of half a unit of the column's last decimal accepts a reservation of
the same size, which is then stored as the whole unit. And a reservation just
under half a unit is journaled as nothing, while its sum with the counter is
rounded twice, to 28 digits and to the column, and gains a unit. -/
theorem rounding_escapes_cap_and_journal : (let cap:ℚ:=5/10^9
  let after:=execute sampleDay empty (sampleRequest 0 (sampleReserve cap cap "c1"))
  after.2=.done ∧ cap<actualUsd after.1 0 .forYou+reservedUsd after.1 0 .forYou) ∧
 let after:=run sampleDay [sampleRequest 0 (sampleReserve 2 1 "c1"),
  sampleRequest 0 (sampleReserve 2 (5/10^9-1/10^32) "c2")]
 reservedUsd after 0 .forYou=1+1/10^8 ∧
  (after.calls.map (outstanding sampleDay 0 .forYou)).sum=1:=by
 decide +kernel

end Kivou.ModelBudgetLedger
