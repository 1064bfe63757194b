import Kivou.AlertCycle
import Kivou.Groups

set_option autoImplicit false

/-! The rows of a batch are written together: as long as they are not suppressed they stand in one
state, so that what takes one of them takes them all. -/
namespace Kivou.AlertBatches
open Tables Groups AlertDeliveries AlertCycle

def batchOfRow (r:Row):Option (String × String):=r.batchKey.map fun b=>(r.accountId,b)

structure Shared where
 status:Status
 attemptCount:ℕ
 retryable:Option Bool
 (leaseExpiresAt nextAttemptAt:Option ℤ)
 recipientContextFingerprint:Option String

def Row.shared (r:Row):Shared where
 status:=r.status
 attemptCount:=r.attemptCount
 retryable:=r.retryable
 leaseExpiresAt:=r.leaseExpiresAt
 nextAttemptAt:=r.nextAttemptAt
 recipientContextFingerprint:=r.recipientContextFingerprint

def shown (r:Row):Option Shared:=if r.status=.suppressed then none else some (Row.shared r)

def Named (digests:Digests)(rows:List Row)(r:Row)(b:String):Prop:=
 r.deliveryMessageId=some (messageId digests r.accountId b) ∧
 ∃keys:List String,b=logicalBatchKey digests r.accountId keys ∧
  ∀k∈keys,∃r'∈rows,r'.key=(r.accountId,k) ∧ r'.batchKey=some b

structure Legacy (r:Row):Prop where
 unattempted:r.attemptCount=0
 undecided:r.retryable=none
 unleased:r.leaseExpiresAt=none
 unscheduled:r.nextAttemptAt=none

structure Sound (digests:Digests)(limit:ℕ)(rows:List Row):Prop where
 unique:(rows.map Row.key).Nodup
 uniform:Uniform batchOfRow shown rows
 legacy:∀r∈rows,r.batchKey=none → r.status=.queued→Legacy r
 unattempted:∀r∈rows,r.status=.queued → r.attemptCount=0
 bounded:∀r∈rows,r.batchKey.isSome → r.attemptCount≤limit
 named:∀r∈rows,∀b,r.batchKey=some b→Named digests rows r b

def Distinct (digests:Digests):Prop:=∀a,Function.Injective (digests.ofBatch a)

variable {digests:Digests}{limit:ℕ}{rows rows':List Row}{b:DeliveryBatch}{now:ℤ}

variable {keys:List String}{r r':Row}{f:Row→Row}

lemma mem_keys {digests:Digests}(distinct:Distinct digests){a:String}{keys':List String}
 (same:logicalBatchKey digests a keys=logicalBatchKey digests a keys'){k:String} :
 k∈keys ↔ k∈keys':=by
 have sorted:=distinct a same
 rw[←List.mem_dedup (l:=keys),←List.mem_dedup (l:=keys'),
  ←(List.perm_insertionSort (· ≤ ·) keys.dedup).mem_iff,sorted,
  (List.perm_insertionSort (· ≤ ·) keys'.dedup).mem_iff]

lemma Sound.row_eq (h:Sound digests limit rows)(mem:r∈rows)(mem':r'∈rows) (same:r.key=r'.key):r=r':=
 List.inj_on_of_nodup_map h.unique mem mem' same

structure Belongs (b:DeliveryBatch)(r:Row):Prop where
 accountId:r.accountId=b.accountId
 batchKey:r.batchKey=some b.batchKey
 messageId:r.deliveryMessageId=some b.messageId
 fingerprint:r.recipientContextFingerprint=b.recipientContextFingerprint
 status:r.status=b.status
 attempts:r.attemptCount=b.attemptCount

/-- A batch as it stands in the table: its signals are those of its rows that
are not suppressed. -/
structure Held (rows:List Row)(b:DeliveryBatch):Prop where
 distinct:b.signalKeys.Nodup
 open':b.status≠.suppressed
 present:∀k∈b.signalKeys,∃r∈rows,r.signalKey=k ∧ Belongs b r
 whole:∀r∈rows,r.accountId=b.accountId → r.batchKey=some b.batchKey →
  r.status≠.suppressed → r.signalKey∈b.signalKeys

lemma owned_iff : owned b keys r=true ↔ r.accountId=b.accountId ∧ r.signalKey∈keys ∧
  r.batchKey=some b.batchKey ∧ r.deliveryMessageId=some b.messageId ∧
  r.recipientContextFingerprint=b.recipientContextFingerprint:=by
 simp[owned,and_assoc]

lemma Held.belongs (held:Held rows b)(sound:Sound digests limit rows)
 (mem:r∈rows)(within:keys ⊆ b.signalKeys)
 (own:owned b keys r=true):Belongs b r:=by
 obtain ⟨account,key,-⟩:=owned_iff.mp own
 obtain ⟨r',mem',key',belongs⟩:=held.present r.signalKey (within key)
 have same:r=r':=sound.row_eq mem mem' (Prod.ext (account.trans belongs.accountId.symm) key'.symm)
 rwa[same]

lemma Belongs.owned (belongs:Belongs b r)(key:r.signalKey∈keys) : owned b keys r=true:=
 owned_iff.mpr ⟨belongs.accountId,key,belongs.batchKey,belongs.messageId,belongs.fingerprint⟩

lemma Held.updateAll (held:Held rows b)(sound:Sound digests limit rows)
 (distinct:keys.Nodup)(within:keys ⊆ b.signalKeys){guard:Row→Bool}
 (met:∀r∈rows,Belongs b r → r.signalKey∈keys → guard r=true) :
 updateAll b keys guard f rows=.ok (update (fun r=>owned b keys r&&guard r) f rows):=by
 have all:rows.countP (fun r=>owned b keys r&&guard r)=keys.length:=by
  rw[←List.length_map (f:=fun k=>(b.accountId,k))]
  refine countP_of_keys sound.unique (distinct.map fun k k' same=>(Prod.mk.inj same).2) ?_ ?_
  · intro r _ taken
    obtain ⟨account,key,-⟩:=owned_iff.mp (Bool.and_eq_true _ _ ▸ taken).1
    exact List.mem_map.mpr ⟨r.signalKey,key,Prod.ext account.symm rfl⟩
  · intro pair mem
    obtain ⟨k,key,rfl⟩:=List.mem_map.mp mem
    obtain ⟨r,there,rfl,belongs⟩:=held.present k (within key)
    exact ⟨r,there,by rw[belongs.owned key,met r there belongs key];rfl,
     Prod.ext belongs.accountId rfl⟩
 simp only[AlertDeliveries.updateAll,all,↓reduceIte]

structure Touch (f:Row→Row):Prop where
 accountId:∀r,(f r).accountId=r.accountId
 signalKey:∀r,(f r).signalKey=r.signalKey
 batchKey:∀r,(f r).batchKey=r.batchKey
 messageId:∀r,(f r).deliveryMessageId=r.deliveryMessageId
 fingerprint:∀r,(f r).recipientContextFingerprint=r.recipientContextFingerprint

lemma Touch.key (touch:Touch f)(r:Row):(f r).key=r.key:=
 Prod.ext (touch.accountId r) (touch.signalKey r)

lemma Named.update {p:Row→Bool}(touch:Touch f){k:String}
 (named:Named digests rows r k):Named digests (update p f rows) r k:=by
 obtain ⟨message,keys,is,found⟩:=named
 refine ⟨message,keys,is,fun k' mem=>?_⟩
 obtain ⟨r',there,key,batch⟩:=found k' mem
 refine ⟨if p r' then f r' else r',mem_update.mpr ⟨r',there,rfl⟩,?_,?_⟩
 · split
   · rw[touch.key,key]
   · exact key
 · split
   · rw[touch.batchKey,batch]
   · exact batch

def Closed (r:Row):Prop:=r.status=.sent ∨ r.status=.suppressed

def Advance (rows rows':List Row):Prop:=∀r∈rows,∃r'∈rows',r'.key=r.key ∧ (Closed r → r'=r) ∧
  ∀k,r.batchKey=some k → r'.batchKey=some k

lemma Advance.refl (rows:List Row):Advance rows rows:=fun r mem=>⟨r,mem,rfl,fun _=>rfl,fun _ is=>is⟩

lemma Advance.trans {rows'':List Row}(h:Advance rows rows')(h':Advance rows' rows'') :
 Advance rows rows'':=by
 intro r mem
 obtain ⟨r',mem',key,closed,batch⟩:=h r mem
 obtain ⟨r'',mem'',key',closed',batch'⟩:=h' r' mem'
 refine ⟨r'',mem'',key'.trans key,fun is=>?_,fun k is=>batch' k (batch k is)⟩
 obtain rfl:=closed is
 exact closed' is

structure Moved (digests:Digests)(limit:ℕ)(rows rows':List Row):Prop where
 sound:Sound digests limit rows'
 advance:Advance rows rows'
 unbatched:∀r∈rows',r.batchKey=none → r∈rows
 joined:∀r∈rows',∀g,batchOfRow r=some g →
  (∃old∈rows,old.key=r.key ∧ batchOfRow old=some g) ∨ ∀old∈rows,batchOfRow old≠some g

lemma Moved.refl (sound:Sound digests limit rows):Moved digests limit rows rows:=
 ⟨sound,Advance.refl rows,fun _ mem _=>mem,fun r mem _ is=>.inl ⟨r,mem,rfl,is⟩⟩

lemma batchOfRow_kept {g:String × String}(key:r'.key=r.key)
 (batch:∀k,r.batchKey=some k → r'.batchKey=some k)(is:batchOfRow r=some g) :
 batchOfRow r'=some g:=by
 obtain ⟨k,some',rfl⟩:=Option.map_eq_some_iff.mp is
 have account:r'.accountId=r.accountId:=congrArg Prod.fst key
 rw[batchOfRow,batch k some',account]
 rfl

lemma Moved.trans {rows'':List Row}(h:Moved digests limit rows rows')
 (h':Moved digests limit rows' rows''):Moved digests limit rows rows'':=by
 refine ⟨h'.sound,h.advance.trans h'.advance,
  fun r mem none=>h.unbatched r (h'.unbatched r mem none) none,fun r mem g is=>?_⟩
 cases h'.joined r mem g is with
 | inl old =>
  obtain ⟨r',mem',key',is'⟩:=old
  cases h.joined r' mem' g is' with
  | inl older =>
   obtain ⟨r'',mem'',key'',is''⟩:=older
   exact .inl ⟨r'',mem'',key''.trans key',is''⟩
  | inr new=>exact .inr new
 | inr new =>
  refine .inr fun old mem' is'=>?_
  obtain ⟨r',mem'',key,-,batch⟩:=h.advance old mem'
  exact new r' mem'' (batchOfRow_kept key batch is')

lemma Moved.closed (h:Moved digests limit rows rows'){g:String × String}{first:Row}
 (there:first∈rows)(named:batchOfRow first=some g)
 (closed:∀r∈rows,batchOfRow r=some g→Closed r) :
 ∀r∈rows',batchOfRow r=some g→Closed r:=by
 intro r mem is
 cases h.joined r mem g is with
 | inl old =>
  obtain ⟨r',mem',key,is'⟩:=old
  have was:=closed r' mem' is'
  obtain ⟨r'',mem'',key'',same,-⟩:=h.advance r' mem'
  have one:r=r'':=List.inj_on_of_nodup_map h.sound.unique mem mem'' (key.symm.trans key''.symm)
  rw[one,same was]
  exact was
 | inr new=>exact absurd named (new first there)

lemma Sound.update (sound:Sound digests limit rows){p:Row→Bool}
 (touch:Touch f)(uniform:Uniform batchOfRow shown (update p f rows))
 (batched:∀r∈rows,p r=true → r.batchKey≠none)
 (left:∀r∈rows,p r=true→¬Closed r)
 (unattempted:∀r∈rows,p r=true→(f r).status≠.queued)
 (bounded:∀r∈rows,p r=true→(f r).attemptCount≤limit) :
 Moved digests limit rows (update p f rows):=by
 refine ⟨⟨?_,uniform,?_,?_,?_,?_⟩,?_,?_,?_⟩
 · rw[map_key_update fun r _ _=>touch.key r]
   exact sound.unique
 · intro r mem none queued
   obtain ⟨old,there,rfl⟩:=mem_update.mp mem
   split at queued
   · exact absurd queued (unattempted old there ‹_›)
   · rename_i other
     rw[if_neg other] at none ⊢
     exact sound.legacy old there none queued
 · intro r mem queued
   obtain ⟨old,there,rfl⟩:=mem_update.mp mem
   split at queued
   · exact absurd queued (unattempted old there ‹_›)
   · rename_i other
     rw[if_neg other]
     exact sound.unattempted old there queued
 · intro r mem some'
   obtain ⟨old,there,rfl⟩:=mem_update.mp mem
   split
   · exact bounded old there ‹_›
   · rename_i other
     rw[if_neg other] at some'
     exact sound.bounded old there some'
 · intro r mem k batch
   obtain ⟨old,there,rfl⟩:=mem_update.mp mem
   split at batch
   · rename_i taken
     rw[touch.batchKey] at batch
     obtain ⟨message,rest⟩:=(sound.named old there k batch).update (p:=p) touch
     rw[if_pos taken]
     unfold Named
     rw[touch.messageId,touch.accountId]
     exact ⟨message,rest⟩
   · rename_i other
     rw[if_neg other]
     exact (sound.named old there k batch).update touch
 · intro r mem
   refine ⟨if p r then f r else r,mem_update.mpr ⟨r,mem,rfl⟩,?_,fun closed=>?_,fun k is=>?_⟩
   · split
     · exact touch.key r
     · rfl
   · exact if_neg fun taken=>left r mem taken closed
   · split
     · rw[touch.batchKey,is]
     · exact is
 · intro r mem none
   obtain ⟨old,there,rfl⟩:=mem_update.mp mem
   split at none
   · rename_i taken
     rw[touch.batchKey] at none
     exact absurd none (batched old there taken)
   · rename_i other
     rw[if_neg other]
     exact there
 · intro r mem g is
   obtain ⟨old,there,rfl⟩:=mem_update.mp mem
   refine .inl ⟨old,there,?_,?_⟩
   · split
     · exact (touch.key old).symm
     · rfl
   · rw[←is]
     split
     · rw[batchOfRow,batchOfRow,touch.batchKey,touch.accountId]
     · rfl

lemma touch_leased (now ttl:ℤ):Touch (Row.leased now ttl):=by constructor <;> intro r <;> rfl

lemma touch_exhausted (status:Status)(interrupted:Bool)(now:ℤ) :
 Touch (Row.exhausted status interrupted now):=by constructor <;> intro r <;> rfl

lemma touch_delivered (id:String)(now:ℤ):Touch (Row.delivered id now):=by
 constructor <;> intro r <;> rfl

lemma touch_undelivered (status:Status)(code:String)(retry:Bool)(next:Option ℤ)(now:ℤ) :
 Touch (Row.undelivered status code retry next now):=by constructor <;> intro r <;> rfl

lemma touch_suppress (reason:SuppressionReason)(now:ℤ):Touch (Row.suppress reason now):=by
 constructor <;> intro r <;> rfl

lemma Held.belongs_of_open (held:Held rows b)(sound:Sound digests limit rows)
 (mem:r∈rows)(account:r.accountId=b.accountId)(batch:r.batchKey=some b.batchKey)
 (open':r.status≠.suppressed):r.signalKey∈b.signalKeys ∧ Belongs b r:=by
 have key:=held.whole r mem account batch open'
 obtain ⟨r',mem',key',belongs⟩:=held.present r.signalKey key
 have same:r=r':=sound.row_eq mem mem' (Prod.ext (account.trans belongs.accountId.symm) key'.symm)
 exact ⟨key,same ▸ belongs⟩

lemma group_iff:batchOfRow r=some (b.accountId,b.batchKey) ↔
 r.accountId=b.accountId ∧ r.batchKey=some b.batchKey:=by
 unfold batchOfRow
 cases r.batchKey <;> simp

lemma Held.rewrite (held:Held rows b)(sound:Sound digests limit rows){guard:Row→Bool}
 (touch:Touch f)(left:¬(b.status=.sent))
 (met:∀r∈rows,Belongs b r → guard r=true){v:Shared}
 (same:∀r∈rows,Belongs b r→Row.shared (f r)=v)(shows:v.status≠.suppressed)
 (attempted:v.status≠.queued)(bounded:v.attemptCount≤limit) :
 ∃rows',AlertDeliveries.updateAll b b.signalKeys guard f rows=.ok rows' ∧
  Moved digests limit rows rows' ∧
  Held rows' {b with status:=v.status,attemptCount:=v.attemptCount}:=by
 have within:b.signalKeys ⊆ b.signalKeys:=fun _ mem=>mem
 have belongs:∀r∈rows,(owned b b.signalKeys r&&guard r)=true→Belongs b r:=
  fun r mem taken=>held.belongs sound mem within (Bool.and_eq_true _ _ ▸ taken).1
 have taken:∀r∈rows,Belongs b r → r.signalKey∈b.signalKeys →(owned b b.signalKeys r&&guard r)=true:=
  fun r mem is key=>by rw[is.owned key,met r mem is];rfl
 have becomes:∀r∈rows,Belongs b r→shown (f r)=some v:=by
  intro r mem is
  have status:(f r).status=v.status:=congrArg Shared.status (same r mem is)
  rw[shown,if_neg (by rw[status];exact shows),same r mem is]
 refine ⟨_,held.updateAll sound held.distinct within fun r mem is _=>met r mem is,?_,?_⟩
 · refine sound.update touch ?_ ?_ ?_ ?_ ?_
   · refine sound.uniform.rewrite (b.accountId,b.batchKey) v fun r mem=>?_
     obtain ⟨old,there,rfl⟩:=mem_update.mp mem
     split
     · have is:=belongs old there ‹_›
       refine .inr ⟨?_,fun v' hv=>?_⟩
       · rw[group_iff,touch.accountId,touch.batchKey]
         exact ⟨is.accountId,is.batchKey⟩
       · rw[becomes old there is] at hv
         exact (Option.some.inj hv).symm
     · rename_i other
       by_cases group:batchOfRow old=some (b.accountId,b.batchKey)
       · refine .inr ⟨group,fun v' hv=>?_⟩
         obtain ⟨account,batch⟩:=group_iff.mp group
         have hidden:old.status=.suppressed:=by
          by_contra open'
          obtain ⟨key,is⟩:=held.belongs_of_open sound there account batch open'
          exact other (taken old there is key)
         rw[shown,if_pos hidden] at hv
         cases hv
       · exact .inl ⟨there,group⟩
   · exact fun r mem is=>by simp[(belongs r mem is).batchKey]
   · rintro r mem is (sent|suppressed)
     · exact left ((belongs r mem is).status ▸ sent)
     · exact held.open' ((belongs r mem is).status ▸ suppressed)
   · intro r mem is
     rw[show (f r).status=v.status from congrArg Shared.status (same r mem (belongs r mem is))]
     exact attempted
   · intro r mem is
     rw[show (f r).attemptCount=v.attemptCount from
      congrArg Shared.attemptCount (same r mem (belongs r mem is))]
     exact bounded
 · refine ⟨held.distinct,shows,fun k key=>?_,fun r mem account batch open'=>?_⟩
   · obtain ⟨r,there,rfl,is⟩:=held.present k key
     refine ⟨f r,mem_update.mpr ⟨r,there,if_pos (taken r there is key)⟩,touch.signalKey r,?_⟩
     exact ⟨(touch.accountId r).trans is.accountId,(touch.batchKey r).trans is.batchKey,
      (touch.messageId r).trans is.messageId,(touch.fingerprint r).trans is.fingerprint,
      congrArg Shared.status (same r there is),congrArg Shared.attemptCount (same r there is)⟩
   · obtain ⟨old,there,rfl⟩:=mem_update.mp mem
     split at account
     · rename_i hit
       rw[if_pos hit,touch.signalKey]
       exact (owned_iff.mp (Bool.and_eq_true _ _ ▸ hit).1).2.1
     · rename_i other
       rw[if_neg other] at batch open' ⊢
       exact held.whole old there account batch open'

lemma Held.suppress (held:Held rows b)(sound:Sound digests limit rows)
 (distinct:keys.Nodup)(within:keys ⊆ b.signalKeys)(left:b.status≠.sent)
 (bounded:b.attemptCount≤limit)(reason:SuppressionReason)(now:ℤ) :
 ∃rows',markSuppressed b keys reason now rows=.ok rows' ∧ Moved digests limit rows rows' ∧
  Held rows' {b with signalKeys:=b.signalKeys.filter fun key=>!keys.contains key} ∧
  ∀r∈rows',r.status≠.suppressed → r∈rows:=by
 have open':∀r∈rows,Belongs b r → r.signalKey∈keys→decide (r.status≠.sent)=true:=
  fun r _ is _=>decide_eq_true (by rw[is.status];exact left)
 have belongs:∀r∈rows,(owned b keys r&&decide (r.status≠.sent))=true→Belongs b r:=
  fun r mem taken=>held.belongs sound mem within (Bool.and_eq_true _ _ ▸ taken).1
 have old:∀r∈update (fun r=>owned b keys r&&decide (r.status≠.sent))
   (Row.suppress reason now) rows,r.status≠.suppressed →
   r∈rows ∧ ¬(owned b keys r&&decide (r.status≠.sent))=true:=by
  intro r mem shows
  obtain ⟨old,there,rfl⟩:=mem_update.mp mem
  split at shows
  · exact absurd rfl shows
  · rename_i other
    rw[if_neg other]
    exact ⟨there,other⟩
 refine ⟨_,held.updateAll sound distinct within open',?_,?_,fun r mem shows=>(old r mem shows).1⟩
 · refine sound.update (touch_suppress reason now) ?_ ?_ ?_ ?_ ?_
   · refine sound.uniform.withdraw fun r mem=>?_
     by_cases hidden:r.status=.suppressed
     · exact .inr (if_pos hidden)
     · exact .inl (old r mem hidden).1
   · exact fun r mem is=>by simp[(belongs r mem is).batchKey]
   · rintro r mem is (sent|suppressed)
     · exact left ((belongs r mem is).status ▸ sent)
     · exact held.open' ((belongs r mem is).status ▸ suppressed)
   · exact fun r _ _=>by simp[Row.suppress]
   · exact fun r mem is=>by simpa[Row.suppress,(belongs r mem is).attempts] using bounded
 · refine ⟨held.distinct.filter _,held.open',fun k mem=>?_,fun r mem account batch shows=>?_⟩
   · obtain ⟨key,outside⟩:=List.mem_filter.mp mem
     obtain ⟨r,there,rfl,is⟩:=held.present k key
     refine ⟨r,mem_update.mpr ⟨r,there,if_neg fun taken=>?_⟩,rfl,?_⟩
     · have inside:=(owned_iff.mp (Bool.and_eq_true _ _ ▸ taken).1).2.1
       simp[inside] at outside
     · exact ⟨is.accountId,is.batchKey,is.messageId,is.fingerprint,is.status,is.attempts⟩
   · obtain ⟨there,free⟩:=old r mem shows
     obtain ⟨key,is⟩:=held.belongs_of_open sound there account batch shows
     refine List.mem_filter.mpr ⟨key,?_⟩
     by_contra inside
     have inside:r.signalKey∈keys:=by simpa using inside
     exact free (by rw[is.owned inside,open' r there is inside];rfl)

def Due (now:ℤ)(rows:List Row)(b:DeliveryBatch):Prop:=∀r∈rows,Belongs b r→due now r=true

lemma due_open (h:due now r=true):¬Closed r:=by
 rintro (is|is) <;> simp[due,is] at h

lemma due_congr (same:Row.shared r=Row.shared r'):due now r=due now r':=by
 have status:r.status=r'.status:=congrArg Shared.status same
 have retryable:r.retryable=r'.retryable:=congrArg Shared.retryable same
 have lease:r.leaseExpiresAt=r'.leaseExpiresAt:=congrArg Shared.leaseExpiresAt same
 have next:r.nextAttemptAt=r'.nextAttemptAt:=congrArg Shared.nextAttemptAt same
 simp only[due,status,retryable,lease,next]

section
variable {ttl:ℤ}{maxAttempts:ℕ}{settings:Settings}

lemma Held.markSending (held:Held rows b)(sound:Sound digests limit rows)
 (isDue:Due now rows b)(left:b.status≠.sent)(budget:b.attemptCount < maxAttempts)
 (most:maxAttempts≤limit)(ttl:ℤ) :
 ∃rows',markSending b now ttl maxAttempts rows =
   .ok ({b with attemptCount:=b.attemptCount+1,status:=.sending},rows') ∧
  Moved digests limit rows rows' ∧
  Held rows' {b with attemptCount:=b.attemptCount+1,status:=.sending}:=by
 have met:∀r∈rows,Belongs b r→(due now r&&decide (r.attemptCount < maxAttempts))=true:=by
  intro r mem is
  rw[isDue r mem is,is.attempts]
  simpa using budget
 have bounded:b.attemptCount+1≤limit:=by omega
 obtain ⟨rows',done,moved,held'⟩:=held.rewrite sound (touch_leased now ttl) left met
  (v:=⟨.sending,b.attemptCount+1,none,some (now+ttl),none,b.recipientContextFingerprint⟩)
  (fun r _ is=>by simp only[Row.shared,Row.leased,is.attempts,is.fingerprint])
  Status.noConfusion Status.noConfusion bounded
 exact ⟨rows',by simp only[AlertDeliveries.markSending,done];rfl,moved,held'⟩

lemma Held.markAttemptBudgetExhausted (held:Held rows b)(sound:Sound digests limit rows)
 (isDue:Due now rows b)(left:b.status≠.sent)(attempted:b.status≠.queued)
 (used:maxAttempts≤b.attemptCount)(bounded:b.attemptCount≤limit) :
 ∃rows',markAttemptBudgetExhausted b now maxAttempts rows=.ok (b.terminalStatus,rows') ∧
  Moved digests limit rows rows':=by
 have terminal:b.terminalStatus=.failed ∨ b.terminalStatus=.unknownDeliveryState:=by
  unfold DeliveryBatch.terminalStatus
  cases is:b.status with
  | queued=>exact absurd is attempted
  | sending | unknownDeliveryState=>exact .inr rfl
  | sent=>exact absurd is left
  | failed=>exact .inl rfl
  | suppressed=>exact absurd is held.open'
 have closes:b.terminalStatus≠.suppressed ∧ b.terminalStatus≠.queued:=by
  rcases terminal with is|is <;> rw[is] <;> decide
 have met:∀r∈rows,Belongs b r→(due now r&&decide (maxAttempts≤r.attemptCount))=true:=by
  intro r mem is
  rw[isDue r mem is,is.attempts]
  simpa using used
 obtain ⟨rows',done,moved,-⟩:=held.rewrite sound
  (touch_exhausted b.terminalStatus (b.status=.sending) now) left met
  (v:=⟨b.terminalStatus,b.attemptCount,some false,none,none,b.recipientContextFingerprint⟩)
  (fun r _ is=>by simp only[Row.shared,Row.exhausted,is.attempts,is.fingerprint])
  closes.1 closes.2 bounded
 exact ⟨rows',by simp only[AlertDeliveries.markAttemptBudgetExhausted,if_pos terminal,done];rfl,moved⟩

lemma Held.markSent (held:Held rows b)(sound:Sound digests limit rows)
 (sending:b.status=.sending)(bounded:b.attemptCount≤limit)(id:String) :
 ∃rows',markSent b id now rows=.ok rows' ∧ Moved digests limit rows rows' ∧
  Held rows' {b with status:=.sent}:=by
 have left:b.status≠.sent:=by rw[sending];decide
 have met:∀r∈rows,Belongs b r→decide (r.status=.sending)=true:=
  fun r _ is=>decide_eq_true (is.status.trans sending)
 exact held.rewrite sound (touch_delivered id now) left met
  (v:=⟨.sent,b.attemptCount,some false,none,none,b.recipientContextFingerprint⟩)
  (fun r _ is=>by simp only[Row.shared,Row.delivered,is.attempts,is.fingerprint])
  Status.noConfusion Status.noConfusion bounded

lemma Held.record (held:Held rows b)(sound:Sound digests limit rows)
 (sending:b.status=.sending)(bounded:b.attemptCount≤limit)(gateway:GatewayOutcome) :
 ∃rows',record settings b now rows gateway=.ok rows' ∧ Moved digests limit rows rows':=by
 have left:b.status≠.sent:=by rw[sending];decide
 have met:∀r∈rows,Belongs b r→decide (r.status=.sending)=true:=
  fun r _ is=>decide_eq_true (is.status.trans sending)
 have failed (status:Status)(code:String)(retryable:Bool)(shows:status≠.suppressed)
   (attempted:status≠.queued):∃rows',
   markUnsuccessful b status code retryable now settings.retry rows=.ok rows' ∧
    Moved digests limit rows rows':=by
  let retries:=retryable&&decide (b.attemptCount<settings.retry.maxAttempts)
  let next:=if retries then some (now+retryDelay settings.retry.retryBase b.attemptCount) else none
  obtain ⟨rows',done,moved,-⟩:=held.rewrite sound
   (touch_undelivered status code retries next now) left met
   (v:=⟨status,b.attemptCount,some retries,none,next,b.recipientContextFingerprint⟩)
   (fun r _ is=>by simp only[Row.shared,Row.undelivered,is.attempts,is.fingerprint])
   shows attempted bounded
  exact ⟨rows',done,moved⟩
 cases gateway with
 | accepted id =>
  obtain ⟨rows',done,moved,-⟩:=held.markSent sound sending bounded id
  exact ⟨rows',done,moved⟩
 | uncertain code=>exact failed .unknownDeliveryState code true (by decide) (by decide)
 | refused code retryable=>exact failed .failed code retryable (by decide) (by decide)

end

lemma foldl_max_eq {n:ℕ}{counts:List ℕ}(filled:counts≠[])(same:∀m∈counts,m=n) :
 counts.foldl max 0=n:=by
 have all:counts=List.replicate counts.length n:=List.eq_replicate_iff.mpr ⟨rfl,same⟩
 have some':counts.length≠0:=fun none=>filled (List.length_eq_zero_iff.mp none)
 have fold (k:ℕ):(List.replicate k n).foldl max n=n:=by
  induction k with
  | zero=>rfl
  | succ k ih=>rw[List.replicate_succ,List.foldl_cons,max_self,ih]
 obtain ⟨k,is⟩:=Nat.exists_eq_succ_of_ne_zero some'
 rw[all,is,List.replicate_succ,List.foldl_cons,Nat.zero_max,fold]

lemma batchOf_ok {candidate:Row}{taken:List Row}{key message:String}
 (batch:candidate.batchKey=some key)(sent:candidate.deliveryMessageId=some message)
 (filled:taken≠[])(same:∀r∈taken,Row.shared r=Row.shared candidate) :
 batchOf candidate taken=.ok (some
  { accountId:=candidate.accountId
    signalKeys:=taken.map (·.signalKey)
    batchKey:=key
    messageId:=message
    recipientContextFingerprint:=candidate.recipientContextFingerprint
    attemptCount:=candidate.attemptCount
    status:=candidate.status}):=by
 have status:∀r∈taken,r.status=candidate.status:=fun r mem=>congrArg Shared.status (same r mem)
 have attempts:(taken.map (·.attemptCount)).foldl max 0=candidate.attemptCount:=by
  refine foldl_max_eq (by simpa using filled) fun m mem=>?_
  obtain ⟨r,there,rfl⟩:=List.mem_map.mp mem
  exact congrArg Shared.attemptCount (same r there)
 cases taken with
 | nil=>exact absurd rfl filled
 | cons first rest =>
  have one:rest.all (fun r=>r.status=first.status)=true:=
   List.all_eq_true.mpr fun r mem=>decide_eq_true
    ((status r (List.mem_cons_of_mem _ mem)).trans (status first List.mem_cons_self).symm)
  have context:(first::rest).all (fun r=>
    r.recipientContextFingerprint=candidate.recipientContextFingerprint)=true:=
   List.all_eq_true.mpr fun r mem=>
    decide_eq_true (congrArg Shared.recipientContextFingerprint (same r mem))
  simp only[batchOf,batch,sent,one,context,Bool.and_self,↓reduceIte,attempts]
  rw[status first List.mem_cons_self]

lemma Sound.agree (sound:Sound digests limit rows){r r':Row}(mem:r∈rows)(mem':r'∈rows)
 {key:String}(account:r.accountId=r'.accountId)(batch:r.batchKey=some key)
 (batch':r'.batchKey=some key)(open':r.status≠.suppressed)
 (open'':r'.status≠.suppressed):Row.shared r=Row.shared r':=by
 have group:batchOfRow r=some (r'.accountId,key):=by simp[batchOfRow,account,batch]
 have group':batchOfRow r'=some (r'.accountId,key):=by simp[batchOfRow,batch']
 have same:=sound.uniform.agree mem mem' group group' (by rw[shown,if_neg open'];rfl)
  (by rw[shown,if_neg open''];rfl)
 rw[shown,if_neg open',shown,if_neg open''] at same
 exact Option.some.inj same

lemma Sound.message_eq (sound:Sound digests limit rows){r r':Row}(mem:r∈rows)
 (mem':r'∈rows){key:String}(account:r.accountId=r'.accountId)
 (batch:r.batchKey=some key)(batch':r'.batchKey=some key) :
 r.deliveryMessageId=r'.deliveryMessageId:=by
 rw[(sound.named r mem key batch).1,(sound.named r' mem' key batch').1,account]

lemma Sound.held_of_due (sound:Sound digests limit rows){candidate:Row}{key message:String}
 (there:candidate∈rows)(batch:candidate.batchKey=some key)
 (sent:candidate.deliveryMessageId=some message)(isDue:due now candidate=true)
 {taken:List Row}(distinct:taken.Nodup)
 (picked:∀r,r∈taken ↔ r∈rows ∧ r.accountId=candidate.accountId ∧ r.batchKey=some key ∧
  r.deliveryMessageId=some message ∧ due now r=true) :
 ∃b,batchOf candidate taken=.ok (some b) ∧ b.accountId=candidate.accountId ∧
  b.signalKeys≠[] ∧ Held rows b ∧ Due now rows b:=by
 have shows:candidate.status≠.suppressed:=fun hidden=>due_open isDue (.inr hidden)
 have same:∀r∈taken,Row.shared r=Row.shared candidate:=by
  intro r mem
  obtain ⟨mem,account,batch',-,isDue'⟩:=(picked r).mp mem
  exact sound.agree mem there account batch' batch (fun hidden=>due_open isDue' (.inr hidden)) shows
 have filled:taken≠[]:=List.ne_nil_of_mem ((picked candidate).mpr ⟨there,rfl,batch,sent,isDue⟩)
 refine ⟨_,batchOf_ok batch sent filled same,rfl,by simpa using filled,⟨?_,shows,?_,?_⟩,?_⟩
 · refine distinct.map_on fun r mem r' mem' is=>?_
   obtain ⟨mem,account,-⟩:=(picked r).mp mem
   obtain ⟨mem',account',-⟩:=(picked r').mp mem'
   exact sound.row_eq mem mem' (Prod.ext (account.trans account'.symm) is)
 · intro k mem
   obtain ⟨r,took,rfl⟩:=List.mem_map.mp mem
   obtain ⟨there',account,batch',message',-⟩:=(picked r).mp took
   exact ⟨r,there',rfl,account,batch',message',
    congrArg Shared.recipientContextFingerprint (same r took),congrArg Shared.status (same r took),
    congrArg Shared.attemptCount (same r took)⟩
 · intro r mem account batch' open'
   have message':=(sound.message_eq mem there account batch' batch).trans sent
   have isDue':=(due_congr (sound.agree mem there account batch' batch open' shows)).trans isDue
   exact List.mem_map_of_mem ((picked r).mpr ⟨mem,account,batch',message',isDue'⟩)
 · intro r mem is
   have open':r.status≠.suppressed:=is.status ▸ shows
   exact (due_congr (sound.agree mem there is.accountId is.batchKey batch open' shows)).trans isDue

lemma nextDueBatch_cases (sound:Sound digests limit rows)(a:String)(now:ℤ) :
 nextDueBatch rows a now=.ok none ∨
 ∃b,nextDueBatch rows a now=.ok (some b) ∧ b.accountId=a ∧ b.signalKeys≠[] ∧
  Held rows b ∧ Due now rows b:=by
 unfold nextDueBatch
 simp only
 split
 · exact .inl rfl
 · rename_i candidate first
   have mem:=(List.mem_insertionSort _).mp (List.mem_of_mem_head? first)
   obtain ⟨there,chosen⟩:=List.mem_filter.mp mem
   simp only[Bool.and_eq_true,decide_eq_true_eq,Option.isSome_iff_exists] at chosen
   obtain ⟨⟨⟨rfl,key,batch⟩,message,sent⟩,isDue⟩:=chosen
   refine .inr (sound.held_of_due there batch sent isDue ?_ fun r=>?_)
   · exact (List.perm_insertionSort _ _).nodup_iff.mpr (sound.unique.of_map.filter _)
   · rw[List.mem_insertionSort,List.mem_filter]
     simp only[Bool.and_eq_true,decide_eq_true_eq,batch,sent,and_assoc]

lemma row?_eq_none {a k:String} : row? rows a k=none ↔ ∀r∈rows,r.key≠(a,k):=by
 simp[row?,List.find?_eq_none]

lemma Sound.row?_eq (sound:Sound digests limit rows){r:Row}(mem:r∈rows) :
 row? rows r.accountId r.signalKey=some r:=
 find?_of_mem sound.unique mem

lemma Sound.fresh (sound:Sound digests limit rows)(distinct:Distinct digests){a:String}
 {keys:List String}(filled:keys≠[])(free:∀k∈keys,isFree rows a k=true)
 {r:Row}(mem:r∈rows)(account:r.accountId=a) :
 r.batchKey≠some (logicalBatchKey digests a keys):=by
 intro batch
 obtain ⟨-,keys',same,found⟩:=sound.named r mem _ batch
 rw[account] at same found
 obtain ⟨k,key⟩:=List.exists_mem_of_ne_nil keys filled
 obtain ⟨r',mem',key',batch'⟩:=found k ((mem_keys distinct same).mp key)
 have looked:=sound.row?_eq mem'
 obtain ⟨account',rfl⟩:=Prod.mk.inj (show (r'.accountId,r'.signalKey)=(a,k) from key')
 have is:=free r'.signalKey key
 rw[isFree,←account',looked,Option.all_some,batch'] at is
 simp at is

structure Joined (b:DeliveryBatch)(r:Row):Prop extends Belongs b r where
 key:r.signalKey∈b.signalKeys
 legacy:Legacy r

lemma Joined.shared {r:Row}(joined:Joined b r) :
 Row.shared r=⟨b.status,0,none,none,none,b.recipientContextFingerprint⟩:=by
 simp only[Row.shared,joined.status,joined.legacy.unattempted,joined.legacy.undecided,
  joined.legacy.unleased,joined.legacy.unscheduled,joined.fingerprint]

/-- What the queue leaves: the rows of the new batch, and the others as they were. -/
structure Queued (rows rows':List Row)(b:DeliveryBatch):Prop where
 distinct:b.signalKeys.Nodup
 unique:(rows'.map Row.key).Nodup
 only:∀r∈rows',r∈rows ∨ Joined b r
 kept:∀r∈rows,r∈rows' ∨ r.batchKey=none ∧ r.status=.queued ∧ ∃r'∈rows',r'.key=r.key
 present:∀k∈b.signalKeys,∃r∈rows',r.signalKey=k ∧ Joined b r

lemma Queued.moved (queued:Queued rows rows' b)(sound:Sound digests limit rows)
 (named:b.batchKey=logicalBatchKey digests b.accountId b.signalKeys)
 (message:b.messageId=messageId digests b.accountId b.batchKey)(status:b.status=.queued)
 (fresh:∀r∈rows,r.accountId=b.accountId → r.batchKey≠some b.batchKey) :
 Moved digests limit rows rows' ∧ Held rows' b ∧ Due now rows' b:=by
 have stays {r:Row}(mem:r∈rows)(batched:r.batchKey≠none):r∈rows':=by
  cases queued.kept r mem with
  | inl there=>exact there
  | inr legacy=>exact absurd legacy.1 batched
 refine ⟨⟨⟨queued.unique,?_,?_,?_,?_,?_⟩,?_,?_,?_⟩,⟨queued.distinct,?_,?_,?_⟩,?_⟩
 · refine sound.uniform.rewrite (b.accountId,b.batchKey)
    ⟨b.status,0,none,none,none,b.recipientContextFingerprint⟩ fun r mem=>?_
   cases queued.only r mem with
   | inl old =>
    refine .inl ⟨old,fun group=>?_⟩
    obtain ⟨account,batch⟩:=group_iff.mp group
    exact fresh r old account batch
   | inr joined =>
    refine .inr ⟨group_iff.mpr ⟨joined.accountId,joined.batchKey⟩,fun v is=>?_⟩
    rw[shown] at is
    split at is
    · cases is
    · exact (Option.some.inj is).symm.trans joined.shared
 · intro r mem none is
   cases queued.only r mem with
   | inl old=>exact sound.legacy r old none is
   | inr joined=>exact joined.legacy
 · intro r mem is
   cases queued.only r mem with
   | inl old=>exact sound.unattempted r old is
   | inr joined=>exact joined.legacy.unattempted
 · intro r mem is
   cases queued.only r mem with
   | inl old=>exact sound.bounded r old is
   | inr joined =>
    rw[joined.legacy.unattempted]
    exact Nat.zero_le limit
 · intro r mem k batch
   cases queued.only r mem with
   | inl old =>
    obtain ⟨is,keys,name,found⟩:=sound.named r old k batch
    refine ⟨is,keys,name,fun k' mem'=>?_⟩
    obtain ⟨r',there,key,batch'⟩:=found k' mem'
    exact ⟨r',stays there (by simp[batch']),key,batch'⟩
   | inr joined =>
    obtain rfl:b.batchKey=k:=Option.mem_unique joined.batchKey batch
    refine ⟨?_,b.signalKeys,?_,fun k mem'=>?_⟩
    · rw[joined.messageId,joined.accountId,message]
    · rw[joined.accountId,named]
    · obtain ⟨r',there,rfl,joined'⟩:=queued.present k mem'
      exact ⟨r',there,Prod.ext (joined'.accountId.trans joined.accountId.symm) rfl,joined'.batchKey⟩
 · intro r mem
   cases queued.kept r mem with
   | inl there=>exact ⟨r,there,rfl,fun _=>rfl,fun _ is=>is⟩
   | inr legacy =>
    obtain ⟨none,is,r',there,key⟩:=legacy
    refine ⟨r',there,key,fun closed=>?_,fun k some'=>?_⟩
    · rcases closed with sent|suppressed
      · rw[is] at sent;cases sent
      · rw[is] at suppressed;cases suppressed
    · rw[none] at some';cases some'
 · intro r mem none
   cases queued.only r mem with
   | inl old=>exact old
   | inr joined =>
    rw[joined.batchKey] at none
    cases none
 · intro r mem g is
   cases queued.only r mem with
   | inl old=>exact .inl ⟨r,old,rfl,is⟩
   | inr joined =>
    obtain rfl:g=(b.accountId,b.batchKey):=
     Option.some.inj (is.symm.trans (group_iff.mpr ⟨joined.accountId,joined.batchKey⟩))
    refine .inr fun old mem' is'=>?_
    obtain ⟨account,batch⟩:=group_iff.mp is'
    exact fresh old mem' account batch
 · rw[status]
   exact Status.noConfusion
 · intro k mem
   obtain ⟨r,there,is,joined⟩:=queued.present k mem
   exact ⟨r,there,is,joined.toBelongs⟩
 · intro r mem account batch _
   cases queued.only r mem with
   | inl old=>exact absurd batch (fresh r old account)
   | inr joined=>exact joined.key
 · intro r _ is
   rw[due,is.status,status]

lemma queued_rows (sound:Sound digests limit rows){a fingerprint:String}{accepted:List String}
 (distinct:accepted.Nodup)(free:∀k∈accepted,isFree rows a k=true)(cadence:String)
 (now:ℤ):Queued rows
  (update (fun r=>r.accountId=a&&accepted.contains r.signalKey&&r.status=.queued &&
    r.batchKey.isNone) (Row.adopted (newBatch digests a accepted fingerprint) now) rows ++
   (accepted.filter fun key=>(row? rows a key).isNone).map
    (newRow (newBatch digests a accepted fingerprint) cadence now))
  (newBatch digests a accepted fingerprint):=by
 have adopts {r:Row}:(r.accountId=a&&accepted.contains r.signalKey&&r.status=.queued &&
   r.batchKey.isNone)=true ↔
   r.accountId=a ∧ r.signalKey∈accepted ∧ r.status=.queued ∧ r.batchKey=none:=by
  simp[and_assoc]
 refine ⟨distinct,?_,?_,?_,?_⟩
 · have named:∀r:Row,(Row.adopted (newBatch digests a accepted fingerprint) now r).key=r.key:=
    fun _=>rfl
   rw[List.map_append,map_key_update fun r _ _=>named r,List.map_map]
   refine sound.unique.append ?_ ?_
   · exact (distinct.filter _).map fun k k' same=>(Prod.mk.inj same).2
   · intro pair old new
     obtain ⟨r,there,rfl⟩:=List.mem_map.mp old
     obtain ⟨k,mem,same⟩:=List.mem_map.mp new
     have none:=Option.isNone_iff_eq_none.mp (List.mem_filter.mp mem).2
     exact row?_eq_none.mp none r there same.symm
 · intro r mem
   rcases List.mem_append.mp mem with updated|new
   · obtain ⟨old,there,rfl⟩:=mem_update.mp updated
     split
     · rename_i taken
       obtain ⟨account,key,queued,none⟩:=adopts.mp taken
       have legacy:=sound.legacy old there none queued
       exact .inr ⟨⟨account,rfl,rfl,rfl,queued,legacy.unattempted⟩,key,
        legacy.unattempted,legacy.undecided,legacy.unleased,legacy.unscheduled⟩
     · exact .inl there
   · obtain ⟨k,fresh,rfl⟩:=List.mem_map.mp new
     exact .inr ⟨⟨rfl,rfl,rfl,rfl,rfl,rfl⟩,(List.mem_filter.mp fresh).1,rfl,rfl,rfl,rfl⟩
 · intro r mem
   by_cases taken:(r.accountId=a&&accepted.contains r.signalKey&&r.status=.queued &&
     r.batchKey.isNone)=true
   · obtain ⟨-,-,queued,none⟩:=adopts.mp taken
     refine .inr ⟨none,queued,_,List.mem_append_left _ (mem_update.mpr ⟨r,mem,if_pos taken⟩),rfl⟩
   · exact .inl (List.mem_append_left _ (mem_update.mpr ⟨r,mem,if_neg taken⟩))
 · intro k mem
   cases looked:row? rows a k with
   | none =>
    have fresh:k∈accepted.filter fun key=>(row? rows a key).isNone:=
     List.mem_filter.mpr ⟨mem,by rw[looked];rfl⟩
    exact ⟨_,List.mem_append_right _ (List.mem_map_of_mem fresh),rfl,
     ⟨rfl,rfl,rfl,rfl,rfl,rfl⟩,mem,rfl,rfl,rfl,rfl⟩
   | some r =>
    obtain ⟨there,key⟩:=find?_key looked
    obtain ⟨rfl,rfl⟩:=Prod.mk.inj (show (r.accountId,r.signalKey)=(a,k) from key)
    have is:=free r.signalKey mem
    rw[isFree,looked,Option.all_some] at is
    simp only[Bool.and_eq_true,decide_eq_true_eq,Option.isNone_iff_eq_none] at is
    have legacy:=sound.legacy r there is.2 is.1
    exact ⟨_,List.mem_append_left _ (mem_update.mpr ⟨r,there,if_pos (adopts.mpr ⟨rfl,mem,is.1,is.2⟩)⟩),
     rfl,⟨rfl,rfl,rfl,rfl,is.1,legacy.unattempted⟩,mem,legacy.unattempted,legacy.undecided,
     legacy.unleased,legacy.unscheduled⟩

lemma queueBatch_cases (sound:Sound digests limit rows)(distinct:Distinct digests)(a:String)
 (keys:List String)(cadence fingerprint:String)(now:ℤ) :
 queueBatch digests rows a keys cadence fingerprint now=(none,rows) ∨
 ∃b rows',queueBatch digests rows a keys cadence fingerprint now=(some b,rows') ∧
  b.accountId=a ∧ b.signalKeys≠[] ∧ b.status=.queued ∧ b.attemptCount=0 ∧
  Moved digests limit rows rows' ∧ Held rows' b ∧ Due now rows' b:=by
 unfold queueBatch
 simp only
 split
 · exact .inl rfl
 · rename_i filled
   refine .inr ⟨_,_,rfl,rfl,filled,rfl,rfl,?_⟩
   have free:∀k∈keys.eraseDups.filter (isFree rows a),isFree rows a k=true:=
    fun k mem=>(List.mem_filter.mp mem).2
   exact (queued_rows sound ((eraseDups_nodup keys).filter _) free cadence now).moved sound rfl rfl rfl
    fun r mem account=>sound.fresh distinct filled free mem account
end Kivou.AlertBatches
