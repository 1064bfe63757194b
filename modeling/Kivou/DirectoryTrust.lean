import Kivou.SupplierDirectory

set_option autoImplicit false

/-! Which writes can leave a domain trusted for two SIREN numbers. -/
namespace Kivou.DirectoryTrust
open SupplierDirectory

variable {env:Env}{d:Directory}

/-- The row holds `name` as a trusted domain. -/
def Trusts (env:Env)(row:Supplier)(name:String):Prop:=
 env.holds name row=true ∧ row.domainValidationMethod.isSome=true ∧
  row.reverificationRequiredAt=none

def Exclusive (env:Env)(d:Directory):Prop:=
 ∀a∈d,∀b∈d,∀name,Trusts env a name→Trusts env b name→a.siren=b.siren

/-- No other SIREN holds `name` as trusted. -/
def Unrivalled (env:Env)(d:Directory)(siren name:String):Prop:=
 ∀row∈d,row.siren≠siren→¬Trusts env row name

lemma trusts_iff {row:Supplier}{name:String}:Trusts env row name ↔
 ∃domain,row.domain=some domain ∧ env.sqlLower domain=name ∧
  row.domainValidationMethod.isSome=true ∧ row.reverificationRequiredAt=none:=by
 simp only[Trusts,Env.holds,Option.any_eq_true,beq_iff_eq]
 constructor
 · rintro ⟨⟨domain,hd,same⟩,method,date⟩
   exact ⟨domain,hd,same,method,date⟩
 · rintro ⟨domain,hd,same,method,date⟩
   exact ⟨⟨domain,hd,same⟩,method,date⟩

section
variable {p:Supplier→Bool}{f:Supplier→Supplier}

lemma Exclusive.update (h:Exclusive env d)(kept:∀row,(f row).siren=row.siren)
 (less:∀row∈d,∀name,Trusts env (f row) name→Trusts env row name) :
 Exclusive env (Tables.update p f d):=by
 have back:∀x∈Tables.update p f d,∃row∈d,row.siren=x.siren ∧
   ∀name,Trusts env x name→Trusts env row name:=by
  intro x hx
  obtain ⟨row,hr,rfl⟩:=Tables.mem_update.mp hx
  refine ⟨row,hr,?_⟩
  split
  · exact ⟨(kept row).symm,less row hr⟩
  · exact ⟨rfl,fun _ h=>h⟩
 intro a ha b hb name ta tb
 obtain ⟨a',ha',sa,la⟩:=back a ha
 obtain ⟨b',hb',sb,lb⟩:=back b hb
 rw[←sa,←sb]
 exact h a' ha' b' hb' name (la name ta) (lb name tb)

lemma Exclusive.update_iff (h:Exclusive env d)(siren:String)
 (one:∀row,p row=true → row.siren=siren)(kept:∀row,(f row).siren=row.siren) :
 Exclusive env (Tables.update p f d) ↔ ∀row∈d,p row=true→∀name,Trusts env (f row) name →
   Unrivalled env d siren name:=by
 constructor
 · intro exclusive row hr taken name granted other ho apart rival
   have untaken:p other≠true:=fun t=>apart (one other t)
   have here:f row∈Tables.update p f d:=Tables.mem_update.mpr ⟨row,hr,if_pos taken⟩
   have there:other∈Tables.update p f d:=Tables.mem_update.mpr ⟨other,ho,if_neg untaken⟩
   have same:=exclusive _ here _ there name granted rival
   rw[kept,one row taken] at same
   exact apart same.symm
 · intro unrivalled a ha b hb name ta tb
   obtain ⟨x,hx,rfl⟩:=Tables.mem_update.mp ha
   obtain ⟨y,hy,rfl⟩:=Tables.mem_update.mp hb
   by_cases tx:p x=true <;> by_cases ty:p y=true
   · rw[if_pos tx,if_pos ty,kept,kept,one x tx,one y ty]
   · rw[if_pos tx] at ta ⊢
     rw[if_neg ty] at tb ⊢
     rw[kept,one x tx]
     by_contra apart
     exact unrivalled x hx tx name ta y hy (Ne.symm apart) tb
   · rw[if_neg tx] at ta ⊢
     rw[if_pos ty] at tb ⊢
     rw[kept,one y ty]
     by_contra apart
     exact unrivalled y hy ty name tb x hx apart ta
   · rw[if_neg tx] at ta ⊢
     rw[if_neg ty] at tb ⊢
     exact h x hx y hy name ta tb

end

lemma trusts_congr {a b:Supplier}(domain:a.domain=b.domain)
 (method:a.domainValidationMethod=b.domainValidationMethod)
 (date:a.reverificationRequiredAt=b.reverificationRequiredAt)(name:String) :
 Trusts env a name→Trusts env b name:=by
 simp only[Trusts,Env.holds,domain,method,date]
 exact id

lemma not_trusts {row:Supplier}(untrusted:row.domainValidationMethod=none)(name:String) :
 ¬Trusts env row name:=by
 simp[Trusts,untrusted]

lemma trusted_trusts {r:DomainRecord}{row:Supplier}{name:String} :
 Trusts env (r.trusted row) name ↔ env.sqlLower r.domain=name:=by
 simp[Trusts,Env.holds,DomainRecord.trusted]

def grants (m:ModelEnrichment)(row:Supplier):Option String:=
 if truthy m.reverificationReason then none
 else match m.website with
  | some website=>if website="" then none else some website
  | none=>if row.domainValidationMethod.isSome then row.domain else none

structure SameTrust (a b:Supplier):Prop where
 siren:b.siren=a.siren
 domain:b.domain=a.domain
 method:b.domainValidationMethod=a.domainValidationMethod
 date:b.reverificationRequiredAt=a.reverificationRequiredAt

lemma SameTrust.trans {a b c:Supplier}(h:SameTrust a b)(k:SameTrust b c) :
 SameTrust a c:=
 ⟨k.siren.trans h.siren,k.domain.trans h.domain,k.method.trans h.method,k.date.trans h.date⟩

lemma SameTrust.trusts {a b:Supplier}(h:SameTrust a b){name:String} :
 Trusts env b name ↔ Trusts env a name:=by
 simp only[Trusts,Env.holds,h.domain,h.method,h.date]

section
variable (m:ModelEnrichment)(before row:Supplier)

lemma withApollo_trust (env:Env):SameTrust row (m.withApollo env before row):=by
 unfold ModelEnrichment.withApollo
 split <;> exact ⟨rfl,rfl,rfl,rfl⟩

lemma withFamily_trust:SameTrust row (m.withFamily row):=by
 unfold ModelEnrichment.withFamily
 split <;> exact ⟨rfl,rfl,rfl,rfl⟩

lemma withDirectors_trust:SameTrust row (m.withDirectors row):=by
 unfold ModelEnrichment.withDirectors
 split <;> exact ⟨rfl,rfl,rfl,rfl⟩

lemma withDisplayName_trust:SameTrust row (m.withDisplayName row):=by
 unfold ModelEnrichment.withDisplayName
 split <;> exact ⟨rfl,rfl,rfl,rfl⟩

lemma withEmail_trust (env:Env):SameTrust row (m.withEmail env before row):=by
 unfold ModelEnrichment.withEmail
 split
 · exact ⟨rfl,rfl,rfl,rfl⟩
 · split <;> exact ⟨rfl,rfl,rfl,rfl⟩

lemma withPhone_trust (env:Env):SameTrust row (m.withPhone env row):=by
 unfold ModelEnrichment.withPhone
 split <;> exact ⟨rfl,rfl,rfl,rfl⟩

lemma values_trust (env:Env):∃kept,SameTrust (m.withWebsite row) kept ∧
 m.values env row=m.withJournal kept:=
 ⟨_,(withApollo_trust m row _ env).trans ((withFamily_trust m _).trans
  ((withDirectors_trust m _).trans ((withDisplayName_trust m _).trans
   ((withEmail_trust m row _ env).trans (withPhone_trust m _ env))))),rfl⟩

lemma withWebsite_siren:(m.withWebsite row).siren=row.siren:=by
 unfold ModelEnrichment.withWebsite
 split <;> rfl

lemma values_siren:(m.values env row).siren=row.siren:=by
 obtain ⟨kept,same,hk⟩:=values_trust m row env
 rw[hk]
 exact same.siren.trans (withWebsite_siren m row)

lemma values_trusts {name:String}:Trusts env (m.values env row) name ↔
 ∃domain,grants m row=some domain ∧ env.sqlLower domain=name:=by
 obtain ⟨kept,same,hk⟩:=values_trust m row env
 rw[hk,trusts_iff]
 change (∃domain,kept.domain=some domain ∧ env.sqlLower domain=name ∧
  kept.domainValidationMethod.isSome=true ∧
  (if truthy m.reverificationReason then some m.observedAt else none)=none) ↔ _
 rw[same.domain,same.method]
 unfold grants
 by_cases doubted:truthy m.reverificationReason=true
 · simp[doubted]
 · simp only[doubted,ModelEnrichment.withWebsite]
   cases m.website with
   | none =>by_cases validated:row.domainValidationMethod.isSome=true <;> simp[validated]
   | some website =>by_cases empty:website="" <;> simp[empty]

end

/-- A granted domain has no rival. A domain that folds as the database lowers it
needs no look: `record_domain` has seen every holder. -/
def Guarded (env:Env)(d:Directory):Write→Prop
 | .recordDomain siren r=>env.sqlLower r.domain≠env.casefold r.domain →(∃row∈d,row.siren=siren) →
   (∀row∈d,env.holds (env.casefold r.domain) row=true → row.siren=siren) →
   Unrivalled env d siren (env.sqlLower r.domain)
 | .recordModelEnrichment siren m=>∀row∈d,row.siren=siren → row.suppressedAt=none →
   ∀domain,grants m row=some domain→Unrivalled env d siren (env.sqlLower domain)
 | _=>True

lemma upsertIdentity_exclusive (h:Exclusive env d)(identity:Identity) :
 Exclusive env (upsertIdentity identity d).1:=by
 unfold upsertIdentity
 split
 · refine h.update (fun _=>rfl) fun row _ name=>?_
   exact SameTrust.trusts (a:=row) (b:=identity.update row) ⟨rfl,rfl,rfl,rfl⟩ |>.mp
 · split
   · have blank:∀name,¬Trusts env identity.insert name:=not_trusts rfl
     intro a ha b hb name ta tb
     rcases List.mem_append.mp ha with oldA|newA
     · rcases List.mem_append.mp hb with oldB|newB
       · exact h a oldA b oldB name ta tb
       · rw[List.mem_singleton.mp newB] at tb
         exact absurd tb (blank name)
     · rw[List.mem_singleton.mp newA] at ta
       exact absurd ta (blank name)
   · exact h

lemma recordDomain_exclusive_iff (h:Exclusive env d)(siren:String)(r:DomainRecord) :
 Exclusive env (recordDomain env siren r d).1 ↔ Guarded env d (.recordDomain siren r):=by
 unfold recordDomain
 by_cases conflict:d.any (fun row=>env.holds (env.casefold r.domain) row &&row.siren != siren)=true
 · rw[if_pos conflict]
   have demoted:=h.update (p:=env.holds (env.casefold r.domain)) (f:=r.untrusted)
    (fun _=>rfl) fun row _ name trusted=>absurd trusted (not_trusts rfl name)
   refine iff_of_true (demoted.update (fun _=>rfl) fun row _ name trusted=>
    absurd trusted (not_trusts rfl name)) ?_
   intro _ _ alone
   obtain ⟨row,hr,held⟩:=List.any_eq_true.mp conflict
   rw[Bool.and_eq_true,bne_iff_ne] at held
   exact absurd (alone row hr held.1) held.2
 · rw[if_neg conflict]
   have alone:∀row∈d,env.holds (env.casefold r.domain) row=true → row.siren=siren:=by
    intro row hr held
    by_contra apart
    exact conflict (List.any_eq_true.mpr ⟨row,hr,by simp[held,apart]⟩)
   have exact:=h.update_iff (p:=(·.siren==siren)) (f:=r.trusted) siren
    (fun row taken=>by simpa using taken) fun _=>rfl
   rw[Directory.updateWhere,exact]
   constructor
   · rintro unrivalled-⟨row,hr,here⟩ -
     exact unrivalled row hr (by simp[here]) _ (trusted_trusts.mpr rfl)
   · intro guarded row hr taken name granted
     rw[←trusted_trusts.mp granted]
     by_cases folded:env.sqlLower r.domain=env.casefold r.domain
     · intro other ho apart rival
       rw[folded] at rival
       exact apart (alone other ho rival.1)
     · exact guarded folded ⟨row,hr,by simpa using taken⟩ alone

lemma recordModelEnrichment_exclusive_iff (h:Exclusive env d)(siren:String)
 (m:ModelEnrichment):Exclusive env (recordModelEnrichment env siren m d).1 ↔
  Guarded env d (.recordModelEnrichment siren m):=by
 have exact:=h.update_iff (p:=fun row=>row.siren==siren&&row.suppressedAt.isNone)
  (f:=m.values env) siren (fun row taken=>by
   rw[Bool.and_eq_true,beq_iff_eq] at taken
   exact taken.1) (values_siren m)
 rw[recordModelEnrichment,Directory.updateWhere,exact]
 constructor
 · intro unrivalled row hr here visible domain granted
   exact unrivalled row hr (by simp[here,visible]) _
    ((values_trusts m row).mpr ⟨domain,granted,rfl⟩)
 · intro guarded row hr taken name trusted
   rw[Bool.and_eq_true,beq_iff_eq,Option.isNone_iff_eq_none] at taken
   obtain ⟨domain,granted,rfl⟩:=(values_trusts m row).mp trusted
   exact guarded row hr taken.1 taken.2 domain granted

lemma write_exclusive_iff (h:Exclusive env d)(w:Write) :
 Exclusive env (write env d w) ↔ Guarded env d w:=by
 cases w with
 | recordDomain siren r=>exact recordDomain_exclusive_iff h siren r
 | recordModelEnrichment siren m=>exact recordModelEnrichment_exclusive_iff h siren m
 | upsertIdentity identity=>exact iff_of_true (upsertIdentity_exclusive h identity) trivial
 | recordApollo | recordWebsiteConnectionFailure | recordContactForm | suppressPersonalData =>
  exact iff_of_true (h.update (fun _=>rfl) fun _ _ _=>trusts_congr rfl rfl rfl _) trivial
 | markWithoutWebsite siren queries results observedAt =>
  refine iff_of_true ?_ trivial
  change Exclusive env (markWithoutWebsite siren queries results observedAt d).1
  unfold markWithoutWebsite
  split
  · exact h
  · exact h.update (fun _=>rfl) fun _ _ _ t=>absurd t (not_trusts rfl _)
 | recordDirectors siren directors observedAt =>
  refine iff_of_true ?_ trivial
  change Exclusive env (recordDirectors siren directors observedAt d)
  unfold recordDirectors
  split
  · exact h
  · exact h.update (fun _=>rfl) fun _ _ _=>trusts_congr rfl rfl rfl _
 | recordEmail siren r =>
  refine iff_of_true ?_ trivial
  change Exclusive env (recordEmail env siren r d).1
  unfold recordEmail
  split
  · exact h
  · exact h.update (fun _=>rfl) fun _ _ _=>trusts_congr rfl rfl rfl _
 | markForReverification siren reason observedAt expectedDomain =>
  exact iff_of_true (h.update (fun _=>rfl) fun _ _ _ t=>absurd t (not_trusts rfl _)) trivial

lemma row?_mem {siren:String}{row:Supplier}(h:d.row? siren=some row) : row∈d ∧ row.siren=siren:=
 Tables.find?_key h

lemma freshDomain_trusts (env:Env){siren:String}{at':ℤ}{row:Supplier}
 (h:freshDomain siren at' d=some row) :
 row∈d ∧ row.siren=siren ∧ ∃domain,row.domain=some domain ∧ Trusts env row (env.sqlLower domain):=by
 obtain ⟨found,valid⟩:=Option.filter_eq_some_iff.mp h
 obtain ⟨hm,hs⟩:=row?_mem found
 simp only[Bool.and_eq_true,Option.isNone_iff_eq_none,truthy,Option.any_eq_true] at valid
 obtain ⟨⟨⟨⟨domain,hd,-⟩,method⟩,date⟩,-⟩:=valid
 exact ⟨hm,hs,domain,hd,trusts_iff.mpr ⟨domain,hd,rfl,method,date⟩⟩

lemma freshEmail_trusts {siren:String}{at':ℤ}{row:Supplier}
 (h:freshEmail env siren at' d=some row) :
 row∈d ∧ row.siren=siren ∧ row.domainValidationMethod.isSome=true ∧
  row.reverificationRequiredAt=none:=by
 obtain ⟨found,valid⟩:=Option.filter_eq_some_iff.mp h
 obtain ⟨hm,hs⟩:=row?_mem found
 simp only[Bool.and_eq_true,Option.isNone_iff_eq_none] at valid
 exact ⟨hm,hs,valid.1.1.1.2,valid.1.1.2⟩

/-- The address `e` of the row is at the row's own domain. -/
def AtHome (env:Env)(row:Supplier)(e:String):Prop:=
 row.professionalEmail=some e ∧ env.holds (mailboxDomain e) row=true

/-- One SIREN for a trusted domain, and so one for the website that `fresh_domain`
gives and for the mailbox domain of `fresh_email`'s addresses at home. -/
structure Attributed (env:Env)(d:Directory):Prop where
 exclusive:Exclusive env d
 website:∀a b s t x y,freshDomain a s d=some x→freshDomain b t d=some y →
  x.domain.map env.sqlLower=y.domain.map env.sqlLower→a=b
 mailbox:∀a b s t x y e f,freshEmail env a s d=some x→freshEmail env b t d=some y →
  AtHome env x e→AtHome env y f→mailboxDomain e=mailboxDomain f→a=b

lemma Exclusive.attributed (h:Exclusive env d):Attributed env d where
 exclusive:=h
 website:=by
  intro a b s t x y hx hy same
  obtain ⟨mx,rfl,domain,dx,tx⟩:=freshDomain_trusts env hx
  obtain ⟨my,rfl,domain',dy,ty⟩:=freshDomain_trusts env hy
  rw[dx,dy,Option.map_some,Option.map_some,Option.some.injEq] at same
  exact h x mx y my _ tx (same ▸ ty)
 mailbox:=by
  intro a b s t x y e f hx hy hex hfy same
  obtain ⟨mx,rfl,methodX,dateX⟩:=freshEmail_trusts hx
  obtain ⟨my,rfl,methodY,dateY⟩:=freshEmail_trusts hy
  exact h x mx y my _ ⟨hex.2,methodX,dateX⟩ (same ▸ ⟨hfy.2,methodY,dateY⟩)

/-- Over every sequence of writes from the empty table: each state attributes
trusted domains exclusively exactly when no write grants a domain that has a rival. -/
theorem attributed_iff_guarded (env:Env)(writes:List Write) :
 (∀before,before <+: writes→Attributed env (before.foldl (write env) [])) ↔
  Runs.Along (write env) (Guarded env) [] writes:=by
 have start:Exclusive env []:=fun a ha=>by cases ha
 have exact:∀d w,True→Exclusive env d→(Exclusive env (write env d w) ↔ Guarded env d w):=
  fun _ w _ h=>write_exclusive_iff h w
 rw[←Runs.always_iff_along (fun _ _ _=>trivial) exact trivial start writes]
 constructor
 · intro attributed before reached
   exact (attributed before reached).exclusive
 · intro exclusive before reached
   exact (exclusive before reached).attributed

def sampleEnv:Env where
 sqlLower text:=String.ofList (text.toList.map Char.toLower)
 casefold text:=String.ofList (text.toList.map Char.toLower)
 hostname _:=none
 isDigit:=Char.isDigit
 publishedEmailEvidence _:=none

def sampleIdentities:List Write:=["111111111","222222222"].map fun siren=>.upsertIdentity
  { siren,legalName:=siren,nafCode:=none,familyKey:="",department:=none,
    city:=none,employees:=none,observedAt:=0}

def sampleAddresses:List Write:=
 sampleIdentities++[("111111111","un.fr"),("222222222","deux.fr")].flatMap fun (siren,domain)=>
   [.recordDomain siren
    { domain,websiteUrl:="https://"++domain,source:="apollo",
      validationMethod:=.nameWord,validationEvidenceUrl:=none,observedAt:=1},
   .recordEmail siren
    { email:="contact@groupe.fr",source:=.manual,verificationStatus:="mx_verified",
      contactName:="",contactTitle:="",observedAt:=1}]

def samplePasses:List Write:=
 sampleIdentities++["111111111","222222222"].map fun siren=>.recordModelEnrichment siren
  { website:=some "groupe.fr",websiteConfidence:=some 1,websiteEvidenceUrl:=none,
    email:=none,emailConfidence:=none,emailEvidenceUrl:=none,family:=none,
    familyConfidence:=none,familyConfirmed:=false,directorDisplayName:=none,
    directorTitle:="",phone:=none,directors:=[],notes:="",callId:=none,
    model:="m",costUsd:=0,inputTokens:=0,outputTokens:=0,evidence:=.null,
    decision:=.null,reverificationReason:=none,observedAt:=1}

/-- Manual addresses are trusted at any mailbox domain, so two companies can share
one; and a model's pass, unlike `record_domain`, looks for no other holder. -/
theorem shared_mailbox_and_website :
 (∃x y,freshEmail sampleEnv "111111111" 1 (sampleAddresses.foldl (write sampleEnv) []) =some x ∧
  freshEmail sampleEnv "222222222" 1 (sampleAddresses.foldl (write sampleEnv) [])=some y ∧
  x.professionalEmail=some "contact@groupe.fr" ∧
  y.professionalEmail=some "contact@groupe.fr") ∧
 (∃x y,freshDomain "111111111" 1 (samplePasses.foldl (write sampleEnv) [])=some x ∧
  freshDomain "222222222" 1 (samplePasses.foldl (write sampleEnv) [])=some y ∧
  x.domain=some "groupe.fr" ∧ y.domain=some "groupe.fr") ∧
 ¬Exclusive sampleEnv (samplePasses.foldl (write sampleEnv) []):=by
 have mail:∀siren∈["111111111","222222222"],
   (freshEmail sampleEnv siren 1 (sampleAddresses.foldl (write sampleEnv) [])).map
    (·.professionalEmail)=some (some "contact@groupe.fr"):=by decide +kernel
 have site:∀siren∈["111111111","222222222"],
   (freshDomain siren 1 (samplePasses.foldl (write sampleEnv) [])).map (·.domain) =
    some (some "groupe.fr"):=by decide +kernel
 obtain ⟨x,hx,ex⟩:=Option.map_eq_some_iff.mp (mail "111111111" (by simp))
 obtain ⟨y,hy,ey⟩:=Option.map_eq_some_iff.mp (mail "222222222" (by simp))
 obtain ⟨u,hu,du⟩:=Option.map_eq_some_iff.mp (site "111111111" (by simp))
 obtain ⟨v,hv,dv⟩:=Option.map_eq_some_iff.mp (site "222222222" (by simp))
 refine ⟨⟨x,y,hx,hy,ex,ey⟩,⟨u,v,hu,hv,du,dv⟩,fun exclusive=>?_⟩
 have one:=exclusive.attributed.website _ _ _ _ u v hu hv (by rw[du,dv])
 exact absurd one (by decide)

end Kivou.DirectoryTrust
