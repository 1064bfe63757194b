import Mathlib.Data.List.ReduceOption
import Kivou.ProspectRecords

set_option autoImplicit false

/-! `signals.prospection_actions.delivery`: complete listings before a mutation, and the mutations
themselves. -/
namespace Kivou.ProspectDelivery
open ProspectRecords

inductive ReadLabel where
 | campaignList (cursor:Option String)
 | leadList (targetId:String)(cursor:Option String)
 | leadVerification (targetId:String)
 | campaignStatus
 deriving DecidableEq

/-- `_read_phase` -/
def ReadLabel.phase:ReadLabel→ReadPhase
 | .campaignList _=>.campaignList
 | .leadList targetId _=>.leadList targetId
 | .leadVerification targetId=>.leadVerification targetId
 | .campaignStatus=>.campaignStatus

/-- `_Operations` -/
structure Operations where
 (readyReads phaseReads:List ReadLabel)
 readyMutations:List MutationKey

/-- `_DeclareOperation` -/
structure Declaration where
 key:Option MutationKey
 replayReads:List ReadLabel

/-- How a use of the provider ends: an exception that is no declaration is `failed`. -/
inductive Attempt (α:Type) where
 | done (value:α)(operations:Operations)
 | declare (declaration:Declaration)
 | failed

/-- `_require_read` -/
def requireRead (label:ReadLabel)(operations:Operations):Attempt Unit:=
 if label∈operations.readyReads then
  .done () {operations with
   readyReads:=operations.readyReads.erase label
   phaseReads:=operations.phaseReads++[label]}
 else .declare ⟨none,operations.phaseReads++[label]⟩

/-- `_require_mutation` -/
def requireMutation (key:MutationKey)(operations:Operations):Attempt Unit:=
 if key∈operations.readyMutations then
  .done () {operations with readyMutations:=operations.readyMutations.erase key}
 else .declare ⟨some key,operations.phaseReads⟩

structure Page (α:Type) where
 items:List α
 nextStartingAfter:Option String

abbrev Listing (α:Type):=Option String→Option (Page α)

def maxReconciliationPages:ℕ:=20

def followingCursor (following:Option String)(seen:List String):Bool:=
 following.all fun cursor=>1≤cursor.length&&cursor.length≤512&&cursor∉seen

/-- `_pages` with the loop of its caller: `select` gives the id of an item that
matches, none for one that does not, and fails on a malformed one. -/
def scan {α:Type}(label:Option String→ReadLabel)(listing:Listing α)
 (select:α→Option (Option String)) :
 ℕ→Option String→List String→List String→Operations→Attempt (Option String)
 | 0,_,_,_,_=>.failed
 | fuel+1,cursor,seen,found,operations =>
  match requireRead (label cursor) operations with
  | .failed=>.failed
  | .declare declaration=>.declare declaration
  | .done () operations =>
   match listing cursor with
   | none=>.failed
   | some page =>
    if followingCursor page.nextStartingAfter seen then
     match page.items.mapM select with
     | none=>.failed
     | some selected =>
      let found:=found++selected.reduceOption
      if found.length > 1 then .failed
      else
       match page.nextStartingAfter with
       | none=>.done found.head? operations
       | some next=>scan label listing select fuel (some next) (next::seen) found operations
    else .failed

/-- A campaign as `list_campaigns` shows it. -/
structure CampaignItem where
 (name providerCampaignId:Option String)

/-- A lead as `list_leads` shows it, `campaign` being an older name of its campaign. -/
structure LeadItem where
 (id email campaignId campaign:Option String)

def selectCampaign (name:String)(item:CampaignItem):Option (Option String):=
 match truthy item.name,truthy item.providerCampaignId with
 | some itemName,some id=>some (if itemName=name then some id else none)
 | _,_=>none

def selectLead (casefold:String→String)(campaignId email:String)(item:LeadItem) :
 Option (Option String):=
 match truthy item.id,item.email with
 | some id,some itemEmail =>
  if item.campaignId.or item.campaign≠some campaignId ∨ item.campaign.any (· ≠ campaignId) then none
  else some (if casefold itemEmail=casefold email then some id else none)
 | _,_=>none

def findCampaign (name:String)(listing:Listing CampaignItem)(operations:Operations) :
 Attempt (Option String):=
 scan .campaignList listing (selectCampaign name) maxReconciliationPages none [] [] operations

def findLead (casefold:String→String)(targetId campaignId email:String)
 (listing:Listing LeadItem)(operations:Operations):Attempt (Option String):=
 scan (.leadList targetId) listing (selectLead casefold campaignId email) maxReconciliationPages
  none [] [] operations

def civilDate (day:ℕ):ℕ × ℕ × ℕ:=
 let z:=day+719468
 let era:=z/146097
 let dayOfEra:=z%146097
 let yearOfEra:=(dayOfEra-dayOfEra/1460+dayOfEra/36524-dayOfEra/146096)/365
 let dayOfYear:=dayOfEra-(365*yearOfEra+yearOfEra/4-yearOfEra/100)
 let shifted:=(5*dayOfYear+2)/153
 let month:=if shifted<10 then shifted+3 else shifted-9
 (yearOfEra+era*400+(if month≤2 then 1 else 0),month,
  dayOfYear-(153*shifted+2)/5+1)

/-- `date.isoformat`, for years of four digits. -/
def isoDate (day:ℕ):String:=
 let (year,month,dayOfMonth):=civilDate day
 let two (n:ℕ):String:=if n<10 then "0"++toString n else toString n
 toString year++"-"++two month++"-"++two dayOfMonth

def fullCampaignName (requestDay:ℕ)(identity:String):String:=
 "Kivou assisted "++isoDate requestDay++" "++identity

def Accounting.receipt (accounting:Accounting)(key:MutationKey):Option MutationReceipt:=
 (accounting.mutations.find? (fun entry=>entry.1==key)).map Prod.snd

/-- `campaign_name`; a create intent without a name is of an older release. -/
def campaignName (r:SendRequest):Option String:=
 match Accounting.receipt r.result.accounting .campaignCreate with
 | none=>some (fullCampaignName r.requestDay r.requestId)
 | some receipt =>
  match receipt.campaignName with
  | none=>some (fullCampaignName r.requestDay (String.ofList (r.requestId.toList.take 8)))
  | some name=>if 1≤name.length ∧ name.length≤256 then some name else none

structure Campaign where
 (id name requestId:String)
 deriving DecidableEq

structure Lead where
 (id campaignId email:String)
 mail:Mail
 (requestId targetId:String)
 deriving DecidableEq

structure Provider where
 campaigns:List Campaign
 leads:List Lead
 activations:List (String × String)
 deriving DecidableEq

inductive Fate where
 | unreached | lost | delivered
 deriving DecidableEq

def created (fate:Fate)(id:String):Option String:=
 if fate=.delivered then truthy (some id) else none

/-- `ensure_campaign` -/
def ensureCampaign (fate:Fate)(campaign:Campaign)(p:Provider):Option String × Provider:=
 if fate=.unreached then (none,p)
 else (created fate campaign.id,{p with campaigns:=campaign::p.campaigns})

/-- `import_target` -/
def importTarget (fate:Fate)(lead:Lead)(p:Provider):Option String × Provider:=
 if fate=.unreached then (none,p)
 else (created fate lead.id,{p with leads:=lead::p.leads})

/-- `activate`: whether it returns. -/
def activate (fate:Fate)(requestId campaignId:String)(p:Provider):Bool × Provider:=
 if fate=.unreached then (false,p)
 else (fate=.delivered,{p with activations:=(requestId,campaignId)::p.activations})

inductive Verification where
 | accepted
 | failed (error:VerificationError)
 | pending

/-- `verification`, of the status the provider gives. -/
def verification (status:Option ℤ):Verification:=
 match status with
 | some 1=>.accepted
 | some (-1)=>.failed .invalid
 | some (-2)=>.failed .risky
 | some (-3)=>.failed .catchAll
 | some (-4)=>.failed .jobChange
 | _=>.pending

def listed {α:Type}(listing:Listing α):ℕ→Option String→Option (List α)
 | 0,_=>none
 | fuel+1,cursor =>
  (listing cursor).bind fun page=>
   match page.nextStartingAfter with
   | none=>some page.items
   | some next=>(listed listing fuel (some next)).map (page.items++·)

lemma truthy_some {id:Option String}{text:String}(h:truthy id=some text) :
 id=some text ∧ text≠"":=by
 rw[truthy,Option.filter_eq_some_iff] at h
 exact ⟨h.1,by simpa using h.2⟩

section
variable {α:Type}{label:Option String→ReadLabel}{listing:Listing α}
 {select:α→Option (Option String)}

variable {fuel:ℕ}{operations operations':Operations}

lemma scan_done {cursor:Option String}{seen found:List String}{answer:Option String}
 (h:scan label listing select fuel cursor seen found operations=.done answer operations') :
 ∃items selected,listed listing fuel cursor=some items ∧
  items.mapM select=some selected ∧ answer=(found++selected.reduceOption).head?:=by
 induction fuel generalizing cursor seen found operations with
 | zero=>cases h
 | succ fuel ih =>
  unfold scan at h
  split at h
  · cases h
  · cases h
  · split at h
    · cases h
    · rename_i page shown
      split at h
      · split at h
        · cases h
        · rename_i selected read
          dsimp only at h
          split at h
          · cases h
          · split at h
            · rename_i last
              refine ⟨page.items,selected,?_,read,?_⟩
              · simp only[listed,shown,Option.bind_some,last]
              · injection h with answered _
                exact answered.symm
            · rename_i next more
              obtain ⟨items,others,whole,read',answered⟩:=ih h
              refine ⟨page.items++items,selected++others,?_,?_,?_⟩
              · simp only[listed,shown,Option.bind_some,more,whole,Option.map_some]
              · rw[List.mapM_append,read,read']
                rfl
              · rw[answered,List.reduceOption_append,List.append_assoc]
      · cases h

/-- What `select` gave for each item. -/
lemma mapM_select {items:List α}{selected:List (Option String)}
 (h:items.mapM select=some selected) :
 (∀id,some id∈selected→∃item∈items,select item=some (some id)) ∧
  ∀item∈items,∃id∈selected,select item=some id:=by
 induction items generalizing selected with
 | nil =>
  obtain rfl:selected=[]:=by simpa using h.symm
  simp
 | cons item items ih =>
  rw[List.mapM_cons] at h
  obtain ⟨first,read,rest⟩:=Option.bind_eq_some_iff.mp h
  obtain ⟨others,reads,eq⟩:=Option.bind_eq_some_iff.mp rest
  obtain rfl:=Option.some.inj eq
  obtain ⟨from',all⟩:=ih reads
  constructor
  · intro id mem
    rcases List.mem_cons.mp mem with rfl|mem
    · exact ⟨item,List.mem_cons_self,read⟩
    · obtain ⟨other,there,is⟩:=from' id mem
      exact ⟨other,List.mem_cons_of_mem _ there,is⟩
  · intro other mem
    rcases List.mem_cons.mp mem with rfl|mem
    · exact ⟨first,List.mem_cons_self,read⟩
    · obtain ⟨id,there,is⟩:=all other mem
      exact ⟨id,List.mem_cons_of_mem _ there,is⟩

lemma scan_some {id:String}
 (h:scan label listing select fuel none [] [] operations=.done (some id) operations') :
 ∃items,listed listing fuel none=some items ∧ ∃item∈items,select item=some (some id):=by
 obtain ⟨items,selected,whole,read,answered⟩:=scan_done h
 rw[List.nil_append] at answered
 have mem:id∈selected.reduceOption:=List.mem_of_head? answered.symm
 exact ⟨items,whole,(mapM_select read).1 id (List.reduceOption_mem_iff.mp mem)⟩

lemma scan_none (h:scan label listing select fuel none [] [] operations=.done none operations') :
 ∃items,listed listing fuel none=some items ∧ ∀item∈items,select item=some none:=by
 obtain ⟨items,selected,whole,read,answered⟩:=scan_done h
 rw[List.nil_append] at answered
 have empty:selected.reduceOption=[]:=List.head?_eq_none_iff.mp answered.symm
 refine ⟨items,whole,fun item mem=>?_⟩
 obtain ⟨id,there,is⟩:=(mapM_select read).2 item mem
 cases id with
 | none=>exact is
 | some id =>
  have mem:id∈selected.reduceOption:=List.reduceOption_mem_iff.mpr there
  rw[empty] at mem
  cases mem

end

lemma selectCampaign_some {name id:String}{item:CampaignItem}
 (h:selectCampaign name item=some (some id)) :
 item.name=some name ∧ item.providerCampaignId=some id ∧ id≠"":=by
 unfold selectCampaign at h
 split at h
 · rename_i itemName itemId named identified
   have same:=Option.some.inj h
   split at same
   · rename_i eq
     obtain rfl:=Option.some.inj same
     subst eq
     exact ⟨(truthy_some named).1,truthy_some identified⟩
   · cases same
 · cases h

lemma selectLead_some {casefold:String→String}{campaignId email id:String}
 {item:LeadItem}(h:selectLead casefold campaignId email item=some (some id)) :
 item.id=some id ∧ id≠"":=by
 unfold selectLead at h
 split at h
 · rename_i itemId itemEmail identified addressed
   split at h
   · cases h
   · have same:=Option.some.inj h
     split at same
     · obtain rfl:=Option.some.inj same
       exact truthy_some identified
     · cases same
 · cases h

lemma created_some {fate:Fate}{newId id:String}(h:created fate newId=some id) : id=newId ∧ id≠"":=by
 unfold created at h
 split at h
 · obtain ⟨is,named⟩:=truthy_some h
   exact ⟨(Option.some.inj is).symm,named⟩
 · cases h

lemma requireRead_done {label:ReadLabel}{operations operations':Operations}
 (h:requireRead label operations=.done () operations') :
 operations'.readyMutations=operations.readyMutations:=by
 unfold requireRead at h
 split at h
 · injection h with _ same
   rw[←same]
 · cases h

lemma requireRead_declare {label:ReadLabel}{operations:Operations}
 {declaration:Declaration}(h:requireRead label operations=.declare declaration) :
 declaration.key=none:=by
 unfold requireRead at h
 split at h
 · cases h
 · injection h with same
   rw[←same]

lemma requireMutation_done {key:MutationKey}{operations operations':Operations}
 (h:requireMutation key operations=.done () operations') :
 key∈operations.readyMutations ∧
  ∀other∈operations'.readyMutations,other∈operations.readyMutations:=by
 unfold requireMutation at h
 split at h
 · rename_i ready
   injection h with _ same
   rw[←same]
   exact ⟨ready,fun other mem=>List.mem_of_mem_erase mem⟩
 · cases h

lemma requireMutation_declare {key:MutationKey}{operations:Operations}
 {declaration:Declaration}(h:requireMutation key operations=.declare declaration) :
 declaration.key=some key:=by
 unfold requireMutation at h
 split at h
 · cases h
 · injection h with same
   rw[←same]

section
variable {α:Type}{label:Option String→ReadLabel}{listing:Listing α}
 {select:α→Option (Option String)}

lemma scan_permits {fuel:ℕ}{cursor:Option String}{seen found:List String}
 {operations operations':Operations}{answer:Option String}
 (h:scan label listing select fuel cursor seen found operations=.done answer operations') :
 operations'.readyMutations=operations.readyMutations:=by
 induction fuel generalizing cursor seen found operations with
 | zero=>cases h
 | succ fuel ih =>
  unfold scan at h
  split at h
  · cases h
  · cases h
  · rename_i read
    split at h
    · cases h
    · split at h
      · split at h
        · cases h
        · dsimp only at h
          split at h
          · cases h
          · split at h
            · injection h with _ same
              rw[←same]
              exact requireRead_done read
            · exact (ih h).trans (requireRead_done read)
      · cases h

lemma scan_declare {fuel:ℕ}{cursor:Option String}{seen found:List String}
 {operations:Operations}{declaration:Declaration}
 (h:scan label listing select fuel cursor seen found operations=.declare declaration) :
 declaration.key=none:=by
 induction fuel generalizing cursor seen found operations with
 | zero=>cases h
 | succ fuel ih =>
  unfold scan at h
  split at h
  · cases h
  · rename_i declared
    injection h with same
    rw[←same]
    exact requireRead_declare declared
  · split at h
    · cases h
    · split at h
      · split at h
        · cases h
        · dsimp only at h
          split at h
          · cases h
          · split at h
            · cases h
            · exact ih h
      · cases h

end

end Kivou.ProspectDelivery
