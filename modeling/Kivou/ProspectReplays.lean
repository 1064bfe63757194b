import Kivou.ProspectRuns

set_option autoImplicit false

/-! A payload that was ingested may come again. -/
namespace Kivou.ProspectReplays
open ProspectRecords ProspectActions ProspectOptOuts ProspectRuns Runs

def Untouched (db db':Db):Prop:=
 db'.targets=db.targets ∧ db'.directory=db.directory ∧ db'.suppressions=db.suppressions

def IngestedFor (db:Db)(payload:WebhookPayload):Prop:=
 ∃event∈db.deliveryEvents,event.fingerprint=payload.fingerprint ∧ event.targetId.isSome=true

def Unbound (policy:Policy)(db:Db)(payload:WebhookPayload)(receivedAt:ℕ):Prop:=
 payload.timestamp+maxEventSkew<receivedAt ∨ receivedAt+maxEventSkew<payload.timestamp ∨
  (boundTargets policy payload db.targets).length≠1

def ReplayUntouched (policy:Policy)(st:System):Step→Prop
 | .ingest payload receivedAt=>IngestedFor st.db payload →
  Untouched st.db (step policy st (.ingest payload receivedAt)).db
 | _=>True

def ReplayUnbound (policy:Policy)(st:System):Step→Prop
 | .ingest payload receivedAt=>IngestedFor st.db payload →Unbound policy st.db payload receivedAt
 | _=>True

section
variable {policy:Policy}{db:Db}{payload:WebhookPayload}{receivedAt:ℕ}

lemma known_of_ingested (ingested:IngestedFor db payload) :
 db.deliveryEvents.any (·.fingerprint=payload.fingerprint)=true:=by
 obtain ⟨event,mem,same,-⟩:=ingested
 exact List.any_eq_true.mpr ⟨event,mem,by simpa using same⟩

lemma replay_bound (ingested:IngestedFor db payload)
 (timely:¬(payload.timestamp+maxEventSkew<receivedAt ∨
  receivedAt+maxEventSkew<payload.timestamp)){t:Target}
 (bound:boundTargets policy payload db.targets=[t]) :
 ingestPayload policy payload receivedAt db =
  some (db.setTarget (targetValues t (eventsOf db t.targetId))):=by
 rw[ingestPayload,if_neg timely,bound]
 simp only[List.length_singleton,ne_eq,not_true_eq_false,and_false,↓reduceIte,
  List.head?_cons,known_of_ingested ingested]

lemma replay_unbound (ingested:IngestedFor db payload)
 (unbound:(boundTargets policy payload db.targets).length≠1) :
 (ingestPayload policy payload receivedAt db).getD db=db:=by
 rw[ingestPayload]
 split
 · rfl
 · dsimp only
   split
   · rfl
   · simp only[↓reduceIte,known_of_ingested ingested,Option.getD_some]

lemma setTarget_ne {t:Target}(mem:t∈db.targets)(t':Target)
 (same:t'.targetId=t.targetId)(changed:t'≠t):(db.setTarget t').targets≠db.targets:=by
 intro kept
 obtain ⟨before,later,split⟩:=List.append_of_mem mem
 have rows:Tables.update (fun r=>r.targetId==t'.targetId) (fun _=>t') db.targets =
   db.targets:=kept
 rw[split,Tables.update,List.map_append,List.map_cons] at rows
 have heads:=List.append_inj rows (List.length_map _)
 have head:=(List.cons.inj heads.2).1
 rw[same,if_pos (beq_self_eq_true t.targetId)] at head
 exact changed head

lemma replay_untouched_iff (ingested:IngestedFor db payload) :
 Untouched db ((ingestPayload policy payload receivedAt db).getD db) ↔
  Unbound policy db payload receivedAt:=by
 constructor
 · intro untouched
   by_contra bound
   simp only[Unbound,not_or,ne_eq,not_not] at bound
   obtain ⟨early,late,single⟩:=bound
   obtain ⟨t,is⟩:=List.length_eq_one_iff.mp single
   have mem:t∈db.targets:=by
    apply List.mem_of_mem_filter (p:=_)
    change t∈boundTargets policy payload db.targets
    rw[is]
    exact List.mem_singleton_self t
   have written:=replay_bound ingested (fun refused=>refused.elim early late) is
   rw[written] at untouched
   have changed:targetValues t (eventsOf db t.targetId)≠t:=by
    intro same
    have version:t.version+1=t.version:=congrArg Target.version same
    omega
   exact setTarget_ne mem (targetValues t _) rfl changed untouched.1
 · intro unbound
   have kept:(ingestPayload policy payload receivedAt db).getD db=db:=by
    rcases unbound with early|late|unbound
    · rw[ingestPayload,if_pos (.inl early)]
      rfl
    · rw[ingestPayload,if_pos (.inr late)]
      rfl
    · exact replay_unbound ingested unbound
   rw[kept]
   exact ⟨rfl,rfl,rfl⟩

end

/-- A run leaves the rows alone at each of its duplicates exactly if none of
them finds its target. -/
theorem replays_untouched_iff (policy:Policy)(opening:Opening)(steps:List Step) :
 Along (step policy) (ReplayUntouched policy) (start opening) steps ↔
  Along (step policy) (ReplayUnbound policy) (start opening) steps:=by
 have always:∀ (st:System)(i:Step),True→True:=fun _ _ _=>trivial
 apply along_congr always
 · intro st i _
   cases i with
   | ingest payload receivedAt =>
    constructor
    · exact fun untouched ingested=>(replay_untouched_iff ingested).mp (untouched ingested)
    · exact fun unbound ingested=>(replay_untouched_iff ingested).mpr (unbound ingested)
   | _=>exact Iff.rfl
 · trivial

/-! ### A message that is opened, and reported twice -/

def sampleOpening:Opening where
 targets:=[{sampleTarget "t1" "alpha" with providerCampaignId:=some "campaign" }]
 directory:=sampleDirectory
 suppressions:=[]
 keys:=by decide
 unreserved:=by simp[sampleTarget]

def samplePayload:WebhookPayload:=⟨some .emailOpened,"campaign",none,4,"fingerprint"⟩

/-- The founder has read version 1, and acts on it after the duplicate. -/
theorem duplicate_invalidates :
 let ingested:=step samplePolicy (start sampleOpening) (.ingest samplePayload 5)
 let again:=step samplePolicy ingested (.ingest samplePayload 6)
 ¬Untouched ingested.db again.db ∧ (reject "t1" 1 .offTopic 7 ingested.db).toOption.isSome=true ∧
  (load again.db "t1" 1).toOption=none ∧
  (reject "t1" 1 .offTopic 7 again.db).toOption.isSome=false:=by
 refine ⟨?_,by decide +kernel,by decide +kernel,by decide +kernel⟩
 intro untouched
 have rows:=congrArg (fun targets=>targets.map Target.version) untouched.1
 exact absurd rows (by decide +kernel)

end Kivou.ProspectReplays
