import Kivou.CompanyReconciliation
import Kivou.Runs

set_option autoImplicit false

/-! Registrations, resolutions and private writes of any accounts, one after the other: each write
is made under the private subject that was just resolved. -/
namespace Kivou.CompanyIdentity
open Tables

section
variable {db db':Db}{accountId key x siren:String}{t:PrivateTable}

/-- A transaction. A write resolves its company first, and then writes any row
under the private subject. -/
inductive Op where
 | register (r:Registration)
 | resolve (accountId companyKey:String)
 | write (accountId companyKey:String)(t:PrivateTable)(values:t.Values)(revision:ℕ)

def Db.put (db:Db)(t:PrivateTable)(row:PrivateRow t.Values):Db:=
 {db with
   privateRows:=Function.update db.privateRows t
    (((db.privateRows t).filter fun other=>other.key != row.key)++[row])}

def step (db:Db):Op→Db
 | .register r=>(registerAlias db r.companyKey r.siren).1
 | .resolve accountId companyKey =>((resolveSubject db accountId companyKey).map Prod.fst).getD db
 | .write accountId companyKey t values revision =>
  match resolveSubject db accountId companyKey with
  | none=>db
  | some (db,subject)=>db.put t ⟨accountId,subject.privateSubjectKey,values,revision⟩

lemma Db.Coherent.put (coherent:db.Coherent)(t:PrivateTable)(row:PrivateRow t.Values) :
 (db.put t row).Coherent:=
 ⟨coherent.keyed,coherent.proven,coherent.directory,coherent.decided⟩

lemma step_cases (db:Db)(op:Op) :
 (∃r,op=.register r ∧ step db op=(registerAlias db r.companyKey r.siren).1) ∨
  ∃mid,(mid=db ∨ ∃accountId key subject,Resolved db accountId key mid subject) ∧
   (step db op=mid ∨ ∃t row,step db op=mid.put t row):=by
 cases op with
 | register r=>exact .inl ⟨r,rfl,rfl⟩
 | resolve accountId companyKey =>
  right
  cases resolved:resolveSubject db accountId companyKey with
  | none=>exact ⟨db,.inl rfl,.inl (by simp[step,resolved])⟩
  | some result =>
   exact ⟨result.1,.inr ⟨_,_,_,resolveSubject_resolved resolved⟩,.inl (by simp[step,resolved])⟩
 | write accountId companyKey t values revision =>
  right
  cases resolved:resolveSubject db accountId companyKey with
  | none=>exact ⟨db,.inl rfl,.inl (by simp[step,resolved])⟩
  | some result =>
   exact ⟨result.1,.inr ⟨_,_,_,resolveSubject_resolved resolved⟩,
    .inr ⟨t,⟨accountId,result.2.privateSubjectKey,values,revision⟩,by simp only[step,resolved]⟩⟩

lemma step_coherent (db:Db)(op:Op)(coherent:db.Coherent):(step db op).Coherent:=by
 rcases step_cases db op with ⟨r,-,is⟩|⟨mid,middle,is⟩
 · rw[is]
   exact coherent.register r
 · have kept:mid.Coherent:=by
    rcases middle with rfl|⟨_,_,_,resolution⟩
    · exact coherent
    · exact resolution.coherent coherent
   rcases is with is|⟨t,row,is⟩
   · exact is ▸ kept
   · exact is ▸ kept.put t row

lemma step_alias? {row:AliasRow}(found:db.alias? key=some row)(op:Op) :
 (step db op).alias? key=some row ∨
  ∃r,op=.register r ∧ (step db op).alias? key=some (contradicted r.companyKey r.siren row):=by
 rcases step_cases db op with ⟨r,rfl,is⟩|⟨mid,middle,is⟩
 · exact (registerAlias_kept found r.companyKey r.siren).imp_right fun changed=>⟨r,rfl,changed⟩
 · left
   have kept:mid.alias? key=some row:=by
    rcases middle with rfl|⟨_,_,_,resolution⟩
    · exact found
    · exact (resolution.alias? key).trans found
   rcases is with is|⟨t,row,is⟩
   · exact is ▸ kept
   · exact is ▸ kept

lemma step_override? {account:String}{o:OverrideRow}
 (found:db.override? account key=some o)(op:Op) :
 (step db op).override? account key=some o:=by
 rcases step_cases db op with ⟨r,rfl,is⟩|⟨mid,middle,is⟩
 · unfold Db.override?
   rw[is,(registerAlias_accounts db r.companyKey r.siren).2.1]
   exact found
 · have kept:mid.override? account key=some o:=by
    rcases middle with rfl|⟨_,_,_,resolution⟩
    · exact found
    · exact resolution.override? found
   rcases is with is|⟨t,row,is⟩
   · exact is ▸ kept
   · exact is ▸ kept

lemma registerAlias_readable (r:Registration){account:String}
 (exact:∀row,(registerAlias db r.companyKey r.siren).1.alias? x=some row →
  row.resolutionStatus≠.unresolved)(coherent:db.Coherent) :
 (registerAlias db r.companyKey r.siren).1.readable t account x=db.readable t account x:=by
 obtain ⟨-,overrides,rows⟩:=registerAlias_accounts db r.companyKey r.siren
 have same:(registerAlias db r.companyKey r.siren).1.privateKey account x =
   db.privateKey account x:=by
  have decisions:(registerAlias db r.companyKey r.siren).1.override? account x =
    db.override? account x:=by
   unfold Db.override?
   rw[overrides]
  cases found:db.alias? x with
  | some row =>
   refine privateKey_congr ?_ decisions
   rcases registerAlias_kept found r.companyKey r.siren with stays|changed
   · rw[stays,found]
   · rw[changed,found]
     have kept:=exact _ changed
     unfold contradicted at kept ⊢
     split at kept
     · exact absurd rfl kept
     · rename_i agrees
       rw[if_neg agrees]
  | none =>
   have undecided:db.override? account x=none:=by
    cases decided:db.override? account x with
    | none=>rfl
    | some o =>
     obtain ⟨row,there,-⟩:=coherent.decided account x o decided
     rw[found] at there
     cases there
   have before:db.privateKey account x=x:=
    privateKey_else fun row there=>by rw[found] at there;cases there
   rw[before]
   cases after:(registerAlias db r.companyKey r.siren).1.alias? x with
   | none=>exact privateKey_else fun row there=>by rw[after] at there;cases there
   | some row =>
    by_cases is:row.resolutionStatus=.exact
    · rw[privateKey_exact after is,decisions,undecided]
      rfl
    · refine privateKey_else fun other there=>?_
      rw[after] at there
      cases there
      exact is
 unfold Db.readable Db.private?
 rw[same,rows]

def Db.Unreconciled (db:Db):Prop:=db.aliases=[] ∧ db.overrides=[]

structure Lossless (db:Db):Prop where
 canonical:∀op k row,db.alias? k=some row→∃row',(step db op).alias? k=some row' ∧
  row'.canonicalCompanyKey=row.canonicalCompanyKey
 quarantined:∀op k row,db.alias? k=some row → row.resolutionStatus=.unresolved →
  ∃row',(step db op).alias? k=some row' ∧ row'.resolutionStatus=.unresolved
 itself:∀accountId k row db' subject,db.alias? k=some row →
  row.resolutionStatus=.unresolved → resolveSubject db accountId k=some (db',subject) →
  subject.privateSubjectKey=k
 separate:∀accountId x y dbx dby sx sy,x≠y → resolveSubject db accountId x=some (dbx,sx) →
  resolveSubject db accountId y=some (dby,sy) →
  sx.privateSubjectKey=sy.privateSubjectKey →
  ∃ax ay,db.alias? x=some ax ∧ db.alias? y=some ay ∧ ax.resolutionStatus=.exact ∧
   ay.resolutionStatus=.exact ∧ ax.identifierValue=ay.identifierValue
 decided:∀op accountId k o,db.override? accountId k=some o →
  (step db op).override? accountId k=some o
 returned:∀accountId k db' subject,resolveSubject db accountId k=some (db',subject) →
  subject.privateSubjectKey=db'.privateKey accountId k
 registered:∀r t accountId x,(∀row,(step db (.register r)).alias? x=some row →
   row.resolutionStatus≠.unresolved) →
  (step db (.register r)).readable t accountId x=db.readable t accountId x
 readable:∀accountId k db' subject,resolveSubject db accountId k=some (db',subject) →
  ∀t account x v,db.readable t account x=some v→db'.readable t account x=some v
 stored:∀accountId k db' subject,resolveSubject db accountId k=some (db',subject) →
  ∀t account x row,db.private? t account x=some row→db'.private? t account x=some row

lemma Db.Unreconciled.coherent (start:db.Unreconciled):db.Coherent:=by
 obtain ⟨aliases,overrides⟩:=start
 have no:∀k,db.alias? k=none:=fun k=>by rw[Db.alias?,aliases];rfl
 refine ⟨by simp[aliases],fun k row found=>?_,fun s _ row found=>?_,fun account k o found=>?_⟩
 · rw[no] at found
   cases found
 · rw[no] at found
   cases found
 · rw[Db.override?,overrides] at found
   cases found

lemma Db.Coherent.lossless (coherent:db.Coherent):Lossless db where
 canonical op k row found:=by
  rcases step_alias? found op with same|⟨r,-,changed⟩
  · exact ⟨row,same,rfl⟩
  · exact ⟨_,changed,(contradicted_canonical r.companyKey r.siren row).1⟩
 quarantined op k row found unresolved:=by
  rcases step_alias? found op with same|⟨r,-,changed⟩
  · exact ⟨row,same,unresolved⟩
  · exact ⟨_,changed,contradicted_unresolved unresolved⟩
 itself accountId k row db' subject found unresolved resolved:=by
  rcases (resolveSubject_resolved resolved).subject_cases coherent with
   own | ⟨other,there,exact,-⟩
  · exact own
  · rw[found] at there
    cases there
    rw[unresolved] at exact
    cases exact
 separate accountId x y dbx dby sx sy other rx ry:=
  separate coherent other (resolveSubject_resolved rx) (resolveSubject_resolved ry)
 decided op accountId k o found:=step_override? found op
 returned accountId k db' subject resolved:=(resolveSubject_resolved resolved).privateKey
 registered r t accountId x kept:=registerAlias_readable r kept coherent
 readable accountId k db' subject resolved t account x v:=
  (resolveSubject_resolved resolved).readable coherent
 stored accountId k db' subject resolved t account x row:=(resolveSubject_resolved resolved).stored

theorem reconciliation_lossless {db:Db}(start:db.Unreconciled)(ops:List Op) :
 Lossless (ops.foldl step db):=
 (Runs.invariant Db.Coherent step_coherent ops start.coherent).lossless

def firstKey:String:="cmp_aaaaaaaaaaaaaaaaaaaaaaaaaaaaaaaa"
def secondKey:String:="cmp_bbbbbbbbbbbbbbbbbbbbbbbbbbbbbbbb"

def sampleCompany (companyKey:String)(generated:companyKey.toList.length=36):SaasCompany:=
 ⟨companyKey,[⟨"SIREN",some "331364729"⟩],some "FR",generated⟩

lemma exactFrenchSiren_sample :
 exactFrenchSiren [⟨"SIREN",some "331364729"⟩] (some "FR")=some "331364729":=by
 decide +kernel

def sampleRegistration (companyKey:String)(generated:companyKey.toList.length=36) :
 Registration:=
 (sampleCompany companyKey generated).registration exactFrenchSiren_sample

def sampleDb:Db where
 accounts:=["account_a"]
 aliases:=[]
 overrides:=[]
 privateRows
  | .companyNote =>[⟨"account_a",firstKey,"Texte A",1⟩,⟨"account_a",secondKey,"Texte B",1⟩]
  | .companyContact=>[]
  | .companyManualContact=>[]
  | .accountCompanyMembership=>[]

def sampleOps:List Op:=[.register (sampleRegistration firstKey (by decide +kernel)),
  .register (sampleRegistration secondKey (by decide +kernel)),
  .resolve "account_a" firstKey,.write "account_a" secondKey .companyNote "Texte C" 2]

theorem reconciliation_lossless_sample :
 sampleDb.Unreconciled ∧ Lossless (sampleOps.foldl step sampleDb):=
 ⟨⟨rfl,rfl⟩,reconciliation_lossless ⟨rfl,rfl⟩ sampleOps⟩

end
end Kivou.CompanyIdentity
