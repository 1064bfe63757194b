import Kivou.ProspectReservations

set_option autoImplicit false

/-! Most guards leave the receipts of a request and the credits of its target alone. -/
namespace Kivou.ProspectAccounting
open ProspectRecords ProspectDelivery ProspectWorker ProspectProcess ProspectActions ProspectRuns
open ProspectLeases ProspectStranding ProspectGuards ProspectReservations

def receipt (r:SendRequest)(key:MutationKey):Option MutationReceipt:=
 Accounting.receipt r.result.accounting key

def books (s:Scope):String × ℕ × Accounting × ℕ:=
 (s.request.requestId,s.request.requestDay,s.request.result.accounting,
  s.target.instantlyCreditUnits)

lemma receipt_setReceipt (accounting:Accounting)(key:MutationKey)(new:MutationReceipt)
 (other:MutationKey):Accounting.receipt (Accounting.setReceipt accounting key new) other =
  if other=key then some new else Accounting.receipt accounting other:=by
 unfold Accounting.receipt Accounting.setReceipt
 by_cases same:other=key
 · subst same
   simp
 · have rest:(accounting.mutations.filter fun entry=>entry.1≠key).find?
     (fun entry=>entry.1==other) =
     accounting.mutations.find? (fun entry=>entry.1==other):=by
    rw[List.find?_filter]
    congr 1
    funext entry
    by_cases is:entry.1=other
    · simp[is,same]
    · simp[is]
   have head:((key,new).1==other)=false:=beq_eq_false_iff_ne.mpr fun is=>same is.symm
   rw[List.find?_cons,head,rest,if_neg same]

lemma receipt_countReads (labels:List ReadLabel)(accounting:Accounting) (key:MutationKey) :
 Accounting.receipt (labels.foldl
  (fun accounting label=>Accounting.countRead accounting label.phase) accounting) key =
  Accounting.receipt accounting key:=by
 induction labels generalizing accounting with
 | nil=>rfl
 | cons label labels ih=>exact (ih _).trans rfl

section
variable {targetId:String}{now:ℕ}{s s':Scope}

lemma finishAlreadySent_books (done:finishAlreadySent targetId now s=some s') : books s'=books s:=by
 unfold finishAlreadySent at done
 split at done
 · dsimp only at done
   split at done
   · split at done <;> obtain rfl:=Option.some.inj done <;> rfl
   · obtain rfl:=Option.some.inj done
     rfl
 · cases done

lemma freeTarget_books:books (freeTarget s)=books s:=by
 unfold freeTarget
 split <;> rfl

lemma blockActivation_books (code:CancelCode) : books (blockActivation targetId code s)=books s:=by
 unfold blockActivation
 split <;> rfl

lemma releaseCancelled_books:books (releaseCancelled now s)=books s:=by
 unfold releaseCancelled
 dsimp only
 split
 · rfl
 · split <;> rfl

lemma rejectChangedTarget_books (code:CancelCode) :
 books (rejectChangedTarget targetId now code s)=books s:=by
 unfold rejectChangedTarget
 rw[releaseCancelled_books,blockActivation_books,freeTarget_books]
 rfl

lemma adoptBinding_books (item:SendItem):books (adoptBinding targetId item s)=books s:=by
 obtain ⟨campaignId,eq⟩:=adoptCampaign_eq s
 unfold adoptBinding
 rw[eq]
 split <;> rfl

lemma completed_books (checked:checkTarget targetId now s=.completed s') : books s'=books s:=by
 have way:=checkTarget_cases targetId now s
 rw[checked] at way
 cases way with
 | sent _ done=>exact finishAlreadySent_books done
 | cancelled code _ _ _=>exact rejectChangedTarget_books code

lemma goOn_books (checked:checkTarget targetId now s=.goOn s'):books s'=books s:=by
 have way:=checkTarget_cases targetId now s
 rw[checked] at way
 cases way with
 | carrier=>rfl
 | unchanged item _ _=>exact adoptBinding_books item

lemma wait_books (failing:Bool)(pendingLead:Option String) :
 books (wait targetId now failing pendingLead s)=books s:=by
 unfold wait
 split
 · exact completed_books ‹_›
 · rename_i s₁ checked
   have same:books s₁=books s:=goOn_books checked
   exact same

lemma settle_books:books (settle now s).1=books s:=by
 unfold settle
 split <;> rfl

variable (campaignId instantlyId:String)

lemma accepted_books : books (accepted targetId now campaignId instantlyId s).1=books s:=by
 unfold accepted
 split
 · exact completed_books ‹_›
 · rename_i s₁ checked
   refine settle_books.trans (Eq.trans ?_ (goOn_books checked))
   split <;> rfl

lemma failed_books (error:ItemError) :
 books (failed targetId now campaignId instantlyId error s).1=books s:=by
 unfold failed
 split
 · exact completed_books ‹_›
 · rename_i s₁ checked
   refine settle_books.trans (Eq.trans ?_ (goOn_books checked))
   split <;> rfl

lemma persistCampaign_books:books (persistCampaign campaignId s)=books s:=by
 unfold persistCampaign books
 split <;> rfl

lemma persistLead_books : books (persistLead targetId campaignId instantlyId s)=books s:=by
 unfold persistLead books
 dsimp only
 split <;> rfl

end

inductive Accounted (targetId:String)(s s':Scope):Prop where
 | kept (same:books s'=books s)
 | declared (key:MutationKey)(r:SendRequest) (own:(r.requestId,r.requestDay,r.result.accounting) =
    (s.request.requestId,s.request.requestDay,s.request.result.accounting))
   (receipts:∀other,receipt s'.request other =
    if other=key then some (declaredReceipt r key) else receipt s.request other)
   (credits:s'.target.instantlyCreditUnits=s.target.instantlyCreditUnits)
 | counted (receipts:∀other,receipt s'.request other=receipt s.request other)
   (credits:s'.target.instantlyCreditUnits=s.target.instantlyCreditUnits)
 | charged (due:MutationReceipt)(intent:receipt s.request (.leadImport targetId)=some due)
   (fresh:due.confirmed=false)
   (receipts:∀other,receipt s'.request other =
    if other=.leadImport targetId then some {due with confirmed:=true}
    else receipt s.request other)
   (credits:s'.target.instantlyCreditUnits=s.target.instantlyCreditUnits+1)

section
variable {targetId:String}{s s':Scope}

lemma receipt_of_books (same:books s'=books s)(key:MutationKey) :
 receipt s'.request key=receipt s.request key:=
 congrArg (fun b:String × ℕ × Accounting × ℕ=>Accounting.receipt b.2.2.1 key) same

lemma declareOperation_accounted {s₁:Scope}(same:books s₁=books s)
 (declaration:Declaration):Accounted targetId s (declareOperation declaration s₁):=by
 have credits:(declareOperation declaration s₁).target.instantlyCreditUnits =
   s.target.instantlyCreditUnits:=congrArg (·.2.2.2) same
 cases key:declaration.key with
 | none =>
  refine .counted (fun other=>?_) credits
  unfold receipt declareOperation
  simp only[Scope.setResult,key]
  rw[receipt_countReads]
  exact receipt_of_books same other
 | some k =>
  refine .declared k s₁.request (congrArg (fun b=>(b.1,b.2.1,b.2.2.1)) same) (fun other=>?_) credits
  unfold receipt declareOperation
  simp only[Scope.setResult,key]
  rw[receipt_countReads,receipt_setReceipt]
  have before:=receipt_of_books same other
  unfold receipt at before
  rw[before]

lemma confirmImport_accounted {s₁:Scope}(same:books s₁=books s) :
 Accounted targetId s (confirmImport targetId s₁):=by
 unfold confirmImport
 split
 · exact .kept same
 · rename_i due found
   unfold importDue at found
   rw[Option.filter_eq_some_iff] at found
   simp only[Bool.and_eq_true,Bool.not_eq_true'] at found
   refine .charged due ((receipt_of_books same _).symm.trans found.1) found.2.2 (fun other=>?_)
    (congrArg (fun b=>b.2.2.2+1) same)
   unfold receipt
   dsimp only[Scope.setResult]
   rw[receipt_setReceipt]
   have before:=receipt_of_books same other
   unfold receipt at before
   rw[before]

lemma way_accounted {casefold:String→String}{o:Oracle}{w:Worker}{p p':Provider}
 {next:Option Phase}{operations:Operations}
 (way:Way casefold o w s p ⟨.commit s' next,p',operations⟩) :
 Accounted w.targetId s s':=by
 generalize turn:(⟨.commit s' next,p',operations⟩:Turn)=t at way
 cases way with
 | completed _ _ checked =>
  cases turn
  exact .kept (completed_books checked)
 | retried s₁ _ _ reached _ =>
  cases turn
  rcases reached with rfl|checked
  · exact .kept (wait_books _ _)
  · exact .kept ((wait_books _ _).trans (goOn_books checked))
 | declared=>cases turn
 | vanished s₁ _ checked _ | routed s₁ _ _ _ _ checked _ | verification _ _ s₁ _ _ _ checked =>
  cases turn
  exact .kept (goOn_books checked)
 | campaign c s₁ campaignId _ _ _ _ checked _ _ =>
  cases turn
  exact .kept ((persistCampaign_books campaignId).trans (goOn_books checked))
 | lead c campaignId instantlyId s₁ _ _ _ _ checked _ _ =>
  cases turn
  exact confirmImport_accounted
   ((persistLead_books campaignId instantlyId).trans (goOn_books checked))
 | pending _ _ _ _ =>
  cases turn
  exact .kept (wait_books _ _)
 | refused | unpromised =>
  cases turn
  exact .kept (failed_books _ _ _)
 | accepted =>
  cases turn
  exact .kept (accepted_books _ _)
 | finalized _ _ _ _ _ _ _ =>
  cases turn
  exact .kept rfl
 | permitted declaration s₁ _ checked =>
  cases turn
  exact declareOperation_accounted (goOn_books checked) declaration

end

lemma books_of_reached {targetId:String}{now:ℕ}{s s':Scope}
 (reached:Reached targetId now s s'):books s'=books s:=by
 rcases reached with rfl|checked
 · rfl
 · exact goOn_books checked

lemma renew_result {r:SendRequest}{leaseId renewedAt:ℕ} :
 (renew leaseId renewedAt r).result=r.result:=by
 rcases renew_eq with eq|⟨_,eq⟩ <;> rw[eq]

lemma claimLocked_result {r claimedRow:SendRequest}{now claimedAt leaseId:ℕ}
 {skipped:List String}{targetId:String}
 (claim:claimLocked r now claimedAt skipped leaseId=some (claimedRow,targetId)) :
 claimedRow.result=r.result ∧ claimedRow.providerCampaignId=r.providerCampaignId:=by
 unfold claimLocked at claim
 split at claim
 · cases claim
 · split at claim
   · obtain ⟨rfl,rfl⟩:=Prod.mk.inj (Option.some.inj claim)
     split <;> exact ⟨rfl,rfl⟩
   · cases claim

end Kivou.ProspectAccounting
