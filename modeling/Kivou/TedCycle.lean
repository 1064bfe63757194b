import Kivou.PythonValues
import Kivou.Runs
import Kivou.StoredCursors
import Kivou.Tables
import Mathlib.Data.List.Nodup
import Mathlib.Tactic.Ring

set_option autoImplicit false

/-! A cycle walks the pages of a search, newest notice first. -/
namespace Kivou.TedCycle
open PythonValues StoredCursors Tables

abbrev Failure:=String

def cursorFault (cycleSince cycleUntil:Day)(page pageSize:ℤ)(pending:List String)
 (nextIndex:ℤ)(morePages complete:Bool):Option Failure:=
 if cycleUntil.ordinal<cycleSince.ordinal then some "TED cursor cycle ends before it starts"
 else if page<1 then some "TED cursor page must be a positive integer"
 else if pageSize<1 then some "TED cursor page_size must be a positive integer"
 else if nextIndex<0 then some "TED cursor next_index cannot be negative"
 else if pageSize<pending.length then some "TED cursor pending page exceeds page_size"
 else if pending.any (fun number=>strip number=="") then
  some "TED cursor publication numbers must be non-empty strings"
 else if ¬pending.Nodup then some "TED cursor publication numbers must be unique"
 else if pending≠[] ∧ pending.length≤nextIndex then
  some "TED cursor next_index exceeds the pending page"
 else if pending=[] ∧ nextIndex≠0 then
  some "TED cursor without pending notices must start at index zero"
 else if complete ∧ (pending≠[] ∨ nextIndex≠0 ∨ morePages) then
  some "TED completed cursor cannot retain pending work"
 else if ¬complete ∧ pending=[] ∧ ¬morePages then
  some "TED incomplete cursor must retain searchable work"
 else none

structure TedCycleCursor where
 (cycleSince cycleUntil:Day)
 (page pageSize:ℤ)
 pendingPublicationNumbers:List String
 nextIndex:ℤ
 (morePages complete:Bool)
 form:cursorFault cycleSince cycleUntil page pageSize pendingPublicationNumbers nextIndex morePages
  complete=none

def tedCycleCursor (cycleSince cycleUntil:Day)(page pageSize:ℤ)(pending:List String)
 (nextIndex:ℤ)(morePages complete:Bool):Except Failure TedCycleCursor:=
 match h:cursorFault cycleSince cycleUntil page pageSize pending nextIndex morePages complete with
 | some fault=>.error fault
 | none=>.ok ⟨cycleSince,cycleUntil,page,pageSize,pending,nextIndex,morePages,complete,h⟩

def positiveInteger (value:Value)(field:String):Except Failure ℤ:=
 match value.integer? with
 | some n=>if n<1 then .error ("TED cursor "++field++" must be a positive integer") else .ok n
 | none=>.error ("TED cursor "++field++" must be a positive integer")

def isoDate (value:Value)(field:String):Except Failure Day:=
 match value with
 | .text s =>
  match Day.fromisoformat s with
  | some d=>.ok d
  | none=>.error ("TED cursor "++field++" must be an ISO date")
 | _=>.error ("TED cursor "++field++" must be an ISO date")

def fieldNames:List String:=
 ["version","cycle_since","cycle_until","page","page_size","pending_publication_numbers",
  "next_index","more_pages","complete"]

/-- `set(value) == expected`. -/
def hasFields (value:Mapping)(expected:List String):Bool:=
 value.all (fun entry=>expected.contains entry.1) &&
  expected.all (fun key=>value.any (fun entry=>entry.1==key))

def Value.text?:Value→Option String
 | .text s=>some s
 | _=>none

/-- `TedCycleCursor.from_dict`. -/
def fromDict (value:Mapping):Except Failure TedCycleCursor:=
 let get (key:String):Value:=(value.get? key).getD .null
 if !hasFields value fieldNames then .error "TED cursor fields are incomplete or unsupported"
 else if !(get "version").equals 1 then .error "unsupported TED cursor version"
 else
  match get "pending_publication_numbers",get "more_pages",get "complete" with
  | .list pending,.bool morePages,.bool complete=>do
   let cycleSince ←isoDate (get "cycle_since") "cycle_since"
   let cycleUntil ←isoDate (get "cycle_until") "cycle_until"
   let page ←positiveInteger (get "page") "page"
   let pageSize ←positiveInteger (get "page_size") "page_size"
   match (get "next_index").integer?,pending.mapM Value.text? with
   | none,_=>.error "TED cursor next_index must be an integer"
   | _,none=>.error "TED cursor publication numbers must be non-empty strings"
   | some nextIndex,some numbers =>
    tedCycleCursor cycleSince cycleUntil page pageSize numbers nextIndex morePages complete
  | .list _,_,_=>.error "TED cursor completion flags must be boolean"
  | _,_,_=>.error "TED cursor pending notices must be a list"

def TedCycleCursor.asDict (c:TedCycleCursor):Mapping:=
 [("version",.int 1),("cycle_since",.text c.cycleSince.isoformat),
  ("cycle_until",.text c.cycleUntil.isoformat),("page",.int c.page),
  ("page_size",.int c.pageSize),
  ("pending_publication_numbers",.list (c.pendingPublicationNumbers.map Value.text)),
  ("next_index",.int c.nextIndex),("more_pages",.bool c.morePages),("complete",.bool c.complete)]

def freshCursor (window:SourceWindow)(pageSize:ℤ):Except Failure TedCycleCursor:=do
 let size ←positiveInteger (.int pageSize) "page_size"
 tedCycleCursor window.since window.through 1 size [] 0 true false

def isText:Value→Bool
 | .text _=>true
 | _=>false

def resumable (cursor:Option Mapping):Except Failure (Option TedCycleCursor):=
 match cursor with
 | none=>.ok none
 | some m =>
  match m.get? "version" with
  | none =>
   if hasFields m ["window_end"]&&(m.get? "window_end").any isText then .ok none
   else .error "unsupported legacy TED cursor"
  | some version =>
   if !version.equals 1 then .error "unsupported TED cursor version"
   else
    match fromDict m with
    | .error failure=>.error failure
    | .ok stored=>.ok (if stored.complete then none else some stored)

def planTedCycle (cursor:Option Mapping)(window:SourceWindow)(pageSize:ℤ) :
 Except Failure TedCycleCursor:=
 match resumable cursor with
 | .error failure=>.error failure
 | .ok (some stored)=>.ok stored
 | .ok none=>freshCursor window pageSize

/-- `dataclasses.replace`. -/
def TedCycleCursor.replace (c:TedCycleCursor)(page:ℤ)(pending:List String)(nextIndex:ℤ)
 (morePages complete:Bool):Except Failure TedCycleCursor:=
 tedCycleCursor c.cycleSince c.cycleUntil page c.pageSize pending nextIndex morePages complete

def recordTedSearchPage (c:TedCycleCursor)(publicationNumbers:List String)(total:ℕ) :
 Except Failure TedCycleCursor:=
 if c.complete ∨ c.pendingPublicationNumbers≠[] then
  .error "TED cursor is not ready for a search page"
 else
  let numbers:=publicationNumbers.eraseDups
  if numbers=[] then c.replace c.page c.pendingPublicationNumbers c.nextIndex false true
  else c.replace c.page numbers 0 (c.page*c.pageSize<total) c.complete

def currentTedPublicationNumber (c:TedCycleCursor):Option String:=
 c.pendingPublicationNumbers[c.nextIndex.toNat]?

def advanceTedNotice (c:TedCycleCursor):Except Failure TedCycleCursor:=
 if currentTedPublicationNumber c=none then .error "TED cursor has no notice to advance"
 else if c.nextIndex+1<c.pendingPublicationNumbers.length then
  c.replace c.page c.pendingPublicationNumbers (c.nextIndex+1) c.morePages c.complete
 else if c.morePages then c.replace (c.page+1) [] 0 c.morePages c.complete
 else c.replace c.page [] 0 false true

def searchPage (listing:List String)(page pageSize:ℤ):List String:=
 (listing.drop ((page-1)*pageSize).toNat).take pageSize.toNat

/-- The stored cursor, the cursor of the run that is going, the list that the
search had when the cycle started, what was inserted at its front since, and the
notices handed to the pipeline since. -/
structure State where
 stored:Option Mapping
 run:Option TedCycleCursor
 (atStart inserted handed:List String)

def State.listing (s:State):List String:=s.inserted++s.atStart

/-- How a unit ends: before the notice is handed to the pipeline, after it but
before the checkpoint is written, or with the checkpoint. -/
inductive Fate where
 | failed | crashed | committed
 deriving DecidableEq

/-- A run starts, a cycle that it starts finding a list; notices are inserted; the
run takes a unit, a page of the search or a notice; it stops. -/
inductive Step where
 | start (window:SourceWindow)(pageSize:ℤ)(found:List String)
 | insert (notices:List String)
 | unit (fate:Fate)
 | stop

def commit (s:State)(next:Except Failure TedCycleCursor):State:=
 match next with
 | .error _=>{s with run:=none}
 | .ok c=>{s with stored:=some c.asDict,run:=some c}

def takeUnit (s:State)(c:TedCycleCursor)(fate:Fate):State:=
 if c.complete then {s with run:=none}
 else
  match currentTedPublicationNumber c with
  | none =>
   let next:=recordTedSearchPage c (searchPage s.listing c.page c.pageSize) s.listing.length
   if fate=.committed then commit s next else {s with run:=none}
  | some number =>
   match fate with
   | .failed=>{s with run:=none}
   | .crashed=>{s with run:=none,handed:=s.handed++[number]}
   | .committed=>commit {s with handed:=s.handed++[number]} (advanceTedNotice c)

def begins (s:State):Bool:=
 match resumable s.stored with
 | .ok none=>true
 | _=>false

def step (s:State):Step→State
 | .start window pageSize found =>
  match planTedCycle s.stored window pageSize with
  | .error _=>{s with run:=none}
  | .ok c =>
   if begins s then ⟨some c.asDict,some c,found,[],[]⟩
   else {s with stored:=some c.asDict,run:=some c}
 | .insert notices=>{s with inserted:=notices++s.inserted}
 | .unit fate =>
  match s.run with
  | none=>s
  | some c=>takeUnit s c fate
 | .stop=>{s with run:=none}

def fresh:State:=⟨none,none,[],[],[]⟩

variable {cycleSince cycleUntil:Day}{page pageSize nextIndex:ℤ}{pending:List String}
 {morePages complete:Bool}{total:ℕ}{number:String}{s:State}

lemma tedCycleCursor_of
 (h:cursorFault cycleSince cycleUntil page pageSize pending nextIndex morePages complete=none) :
 tedCycleCursor cycleSince cycleUntil page pageSize pending nextIndex morePages complete =
  .ok ⟨cycleSince,cycleUntil,page,pageSize,pending,nextIndex,morePages,complete,h⟩:=by
 unfold tedCycleCursor
 split
 · rename_i fault found
   rw[h] at found
   cases found
 · rfl

lemma tedCycleCursor_fields {c:TedCycleCursor}
 (h:tedCycleCursor cycleSince cycleUntil page pageSize pending nextIndex morePages complete=.ok c) :
 c.cycleSince=cycleSince ∧ c.cycleUntil=cycleUntil ∧ c.page=page ∧ c.pageSize=pageSize ∧
  c.pendingPublicationNumbers=pending ∧ c.nextIndex=nextIndex ∧ c.morePages=morePages ∧
  c.complete=complete:=by
 unfold tedCycleCursor at h
 split at h
 · cases h
 · cases h
   exact ⟨rfl,rfl,rfl,rfl,rfl,rfl,rfl,rfl⟩

lemma fault_none {p:Prop}[Decidable p]{message:Failure}{rest:Option Failure} :
 (if p then some message else rest)=none ↔ ¬p ∧ rest=none:=by
 split_ifs with h <;> simp[h]

lemma cursorFault_none :
 cursorFault cycleSince cycleUntil page pageSize pending nextIndex morePages complete=none ↔
  cycleSince.ordinal≤cycleUntil.ordinal ∧ 1≤page ∧ 1≤pageSize ∧ 0≤nextIndex ∧
   pending.length≤pageSize ∧ (∀number∈pending,strip number≠"") ∧ pending.Nodup ∧
   (pending≠[]→nextIndex<pending.length) ∧ (pending=[]→nextIndex=0) ∧
   (complete=true→pending=[] ∧ morePages=false) ∧
   (complete=false→pending=[]→morePages=true):=by
 simp only[cursorFault,fault_none,and_true]
 simp only[not_lt,List.any_eq_true,beq_iff_eq,not_exists,not_and,not_not,not_le]
 cases complete <;> cases morePages <;> simp

lemma isoDate_isoformat (d:Day)(field:String):isoDate (.text d.isoformat) field=.ok d:=by
 simp only[isoDate,Day.fromisoformat_isoformat]

lemma positiveInteger_of {n:ℤ}(h:1≤n)(field:String) : positiveInteger (.int n) field=.ok n:=by
 simp only[positiveInteger,Value.integer?]
 rw[if_neg (by omega)]

lemma mapM_text (numbers:List String) : (numbers.map Value.text).mapM Value.text?=some numbers:=by
 induction numbers with
 | nil=>rfl
 | cons number numbers ih =>
  rw[List.map_cons,List.mapM_cons,ih]
  rfl

lemma fromDict_asDict (c:TedCycleCursor):fromDict c.asDict=.ok c:=by
 obtain ⟨-,page,pageSize,-⟩:=cursorFault_none.mp c.form
 have fields:hasFields c.asDict fieldNames=true:=rfl
 have version:(c.asDict.get? "version").getD .null=.int 1:=rfl
 have since:(c.asDict.get? "cycle_since").getD .null=.text c.cycleSince.isoformat:=rfl
 have through:(c.asDict.get? "cycle_until").getD .null=.text c.cycleUntil.isoformat:=rfl
 have number:(c.asDict.get? "page").getD .null=.int c.page:=rfl
 have size:(c.asDict.get? "page_size").getD .null=.int c.pageSize:=rfl
 have pending:(c.asDict.get? "pending_publication_numbers").getD .null =
  .list (c.pendingPublicationNumbers.map Value.text):=rfl
 have index:(c.asDict.get? "next_index").getD .null=.int c.nextIndex:=rfl
 have more:(c.asDict.get? "more_pages").getD .null=.bool c.morePages:=rfl
 have complete:(c.asDict.get? "complete").getD .null=.bool c.complete:=rfl
 have one:(Value.int 1).equals 1=true:=rfl
 simp only[fromDict,fields,version,since,through,number,size,pending,index,more,complete,
  one,isoDate_isoformat,positiveInteger_of page,positiveInteger_of pageSize,Value.integer?,
  mapM_text,tedCycleCursor_of c.form,bind,Except.bind]
 rfl

lemma asDict_inj {c d:TedCycleCursor}(h:c.asDict=d.asDict):c=d:=by
 have first:=fromDict_asDict c
 rw[h,fromDict_asDict d] at first
 cases first
 rfl

lemma resumable_asDict (c:TedCycleCursor) :
 resumable (some c.asDict)=.ok (if c.complete then none else some c):=by
 have version:c.asDict.get? "version"=some (.int 1):=rfl
 have one:(Value.int 1).equals 1=true:=rfl
 simp only[resumable,version,one,fromDict_asDict]
 rfl

lemma searchPage_length {listing:List String}(h:1≤pageSize) :
 ((searchPage listing page pageSize).eraseDups.length:ℤ)≤pageSize:=by
 have short:=eraseDups_length_le (searchPage listing page pageSize)
 have taken:(searchPage listing page pageSize).length≤pageSize.toNat:=by
  simp[searchPage]
 omega

variable {c c':TedCycleCursor}

lemma recordTedSearchPage_ok {rows:List String} (h:recordTedSearchPage c rows total=.ok c') :
 c.complete=false ∧ c.pendingPublicationNumbers=[] ∧ c'.page=c.page ∧ c'.pageSize=c.pageSize ∧
  (rows=[] ∧ c'.complete=true ∧ c'.pendingPublicationNumbers=[] ∨
   c'.complete=false ∧ c'.pendingPublicationNumbers=rows.eraseDups ∧ rows≠[] ∧
    c'.nextIndex=0 ∧ (c'.morePages=false→(total:ℤ)≤c.page*c.pageSize)):=by
 unfold recordTedSearchPage at h
 split_ifs at h with ready
 simp only[not_or,not_not,Bool.not_eq_true] at ready
 dsimp only at h
 have none_iff:rows.eraseDups=[] ↔ rows=[]:=by
  cases rows with
  | nil=>simp
  | cons row rows=>simp[List.eraseDups_cons]
 split_ifs at h with empty
 · obtain ⟨-,-,page,size,pending,-,-,complete⟩:=tedCycleCursor_fields h
   exact ⟨ready.1,ready.2,page,size,.inl ⟨none_iff.mp empty,complete,pending.trans ready.2⟩⟩
 · obtain ⟨-,-,page,size,pending,index,more,complete⟩:=tedCycleCursor_fields h
   refine ⟨ready.1,ready.2,page,size,.inr ⟨complete.trans ready.1,pending,
    fun none=>empty (none_iff.mpr none),index,fun last=>?_⟩⟩
   rw[more] at last
   simpa using last

lemma recordTedSearchPage_accepts {listing:List String}
 (incomplete:c.complete=false)(due:currentTedPublicationNumber c=none)
 (named:∀number∈listing,strip number≠"") :
 ∃c',recordTedSearchPage c (searchPage listing c.page c.pageSize) total=.ok c':=by
 obtain ⟨window,page,pageSize,index,fits,-,-,within,initial,-,-⟩:=cursorFault_none.mp c.form
 have nothing:c.pendingPublicationNumbers=[]:=by
  by_contra pending
  have less:=within pending
  have beyond:=List.getElem?_eq_none_iff.mp due
  omega
 unfold recordTedSearchPage
 rw[if_neg (by simp[incomplete,nothing])]
 dsimp only
 split_ifs with empty
 · refine ⟨_,tedCycleCursor_of (cursorFault_none.mpr ?_)⟩
   refine ⟨window,page,pageSize,index,fits,?_,?_,?_,initial,?_,?_⟩ <;> simp[nothing]
 · refine ⟨_,tedCycleCursor_of (cursorFault_none.mpr ?_)⟩
   refine ⟨window,page,pageSize,le_refl 0,searchPage_length pageSize,?_,eraseDups_nodup _,?_,?_,
    ?_,?_⟩
   · intro number mem
     have row:=List.mem_of_mem_take (List.mem_eraseDups.mp mem)
     exact named number (List.mem_of_mem_drop row)
   · intro pending
     exact_mod_cast List.length_pos_iff.mpr pending
   · intro none
     exact absurd none empty
   · intro finished
     rw[incomplete] at finished
     cases finished
   · intro _ none
     exact absurd none empty

lemma advanceTedNotice_ok (h:advanceTedNotice c=.ok c') :
 ∃number,currentTedPublicationNumber c=some number ∧ c'.pageSize=c.pageSize ∧
  (c'.page=c.page ∧ c'.pendingPublicationNumbers=c.pendingPublicationNumbers ∧
    c'.nextIndex=c.nextIndex+1 ∧ c'.morePages=c.morePages ∧ c'.complete=c.complete ∨
   c.pendingPublicationNumbers.length≤c.nextIndex+1 ∧ c'.pendingPublicationNumbers=[] ∧
    (c.morePages=true ∧ c'.page=c.page+1 ∧ c'.complete=c.complete ∨
     c.morePages=false ∧ c'.complete=true)):=by
 unfold advanceTedNotice at h
 split_ifs at h with absent inside more
 all_goals
  obtain ⟨number,found⟩:=Option.ne_none_iff_exists'.mp absent
  obtain ⟨-,-,page,size,pending,index,pages,complete⟩:=tedCycleCursor_fields h
  refine ⟨number,found,size,?_⟩
 · exact .inl ⟨page,pending,index,pages,complete⟩
 · exact .inr ⟨by omega,pending,.inl ⟨more,page,complete⟩⟩
 · exact .inr ⟨by omega,pending,.inr ⟨by simpa using more,complete⟩⟩

lemma advanceTedNotice_accepts (due:currentTedPublicationNumber c=some number) :
 ∃c',advanceTedNotice c=.ok c':=by
 obtain ⟨window,page,pageSize,index,fits,named,unique,within,initial,finished,-⟩:=
  cursorFault_none.mp c.form
 have pending:c.pendingPublicationNumbers≠[]:=by
  intro none
  simp[currentTedPublicationNumber,none] at due
 have incomplete:c.complete=false:=by
  by_contra complete
  exact pending (finished (by simpa using complete)).1
 unfold advanceTedNotice
 rw[if_neg (by simp[due])]
 split_ifs with inside more
 all_goals refine ⟨_,tedCycleCursor_of (cursorFault_none.mpr ?_)⟩
 · exact ⟨window,page,pageSize,by omega,fits,named,unique,fun _=>inside,
    fun none=>absurd none pending,finished,fun _ none=>absurd none pending⟩
 · refine ⟨window,by omega,pageSize,le_refl 0,?_,?_,.nil,?_,?_,?_,fun _ _=>more⟩
   · simp only[List.length_nil]
     omega
   · simp
   · simp
   · simp
   · simp[incomplete]
 · refine ⟨window,page,pageSize,le_refl 0,?_,?_,.nil,?_,?_,?_,?_⟩
   · simp only[List.length_nil]
     omega
   all_goals simp

/-- The notices on the pages that the cursor is past, or has pending, are handed
over or pending; `k` notices were inserted in front of them. -/
structure Covered (c:TedCycleCursor)(k:ℕ)(atStart handed:List String):Prop where
 pages:∀n∈atStart.take (((if c.pendingPublicationNumbers=[] then c.page-1 else c.page) *
  c.pageSize).toNat-k),n∈handed ∨ n∈c.pendingPublicationNumbers
 done:∀n∈c.pendingPublicationNumbers.take c.nextIndex.toNat,n∈handed
 last:c.pendingPublicationNumbers≠[]→c.morePages=false →
  ∀n∈atStart,n∈handed ∨ n∈c.pendingPublicationNumbers
 complete:c.complete=true→∀n∈atStart,n∈handed

variable {k:ℕ}{atStart inserted handed:List String}

lemma Covered.insert (covered:Covered c k atStart handed){j:ℕ}(more:k≤j) :
 Covered c j atStart handed:=by
 refine ⟨fun n mem=>?_,covered.done,covered.last,covered.complete⟩
 exact covered.pages n ((List.take_prefix_take_left (by omega)).subset mem)

lemma Covered.hand (covered:Covered c k atStart handed)(number:String) :
 Covered c k atStart (handed++[number]):=by
 have kept:∀n∈handed,n∈handed++[number]:=fun n mem=>List.mem_append_left _ mem
 exact ⟨fun n mem=>(covered.pages n mem).imp_left (kept n),fun n mem=>kept n (covered.done n mem),
  fun pending last n mem=>(covered.last pending last n mem).imp_left (kept n),
  fun complete n mem=>kept n (covered.complete complete n mem)⟩

lemma mem_page (first:1≤page)(size:1≤pageSize){n:String}
 (mem:n∈atStart.take ((page*pageSize).toNat-inserted.length)) :
 n∈atStart.take (((page-1)*pageSize).toNat-inserted.length) ∨
  n∈searchPage (inserted++atStart) page pageSize:=by
 have start:atStart=(inserted++atStart).drop inserted.length:=List.drop_append_length.symm
 have ends:(page*pageSize).toNat=((page-1)*pageSize).toNat+pageSize.toNat:=by
  have before:0≤(page-1)*pageSize:=mul_nonneg (by omega) (by omega)
  have split:page*pageSize=(page-1)*pageSize+pageSize:=by ring
  omega
 rw[start,←List.drop_take,ends,List.take_add,List.drop_append] at mem
 rcases List.mem_append.mp mem with before|on
 · left
   rw[List.drop_take,←start] at before
   exact before
 · right
   exact List.mem_of_mem_drop on

lemma Covered.search (covered:Covered c inserted.length atStart handed)
 (length:(inserted++atStart).length=total)
 (h:recordTedSearchPage c (searchPage (inserted++atStart) c.page c.pageSize) total=.ok c') :
 Covered c' inserted.length atStart handed:=by
 obtain ⟨incomplete,nothing,samePage,sameSize,found⟩:=recordTedSearchPage_ok h
 obtain ⟨-,first,size,-⟩:=cursorFault_none.mp c.form
 have earlier:=covered.pages
 rw[if_pos nothing,nothing] at earlier
 have before:∀n∈atStart.take ((c.page*c.pageSize).toNat-inserted.length),
   n∈handed ∨ n∈searchPage (inserted++atStart) c.page c.pageSize:=by
  intro n mem
  rcases mem_page first size mem with above|on
  · rcases earlier n above with done|pending
    · exact .inl done
    · cases pending
  · exact .inr on
 rcases found with ⟨empty,complete,pending⟩|⟨incomplete',pending,-,index,last⟩
 · -- An empty page is past the end of the list.
   have past:(inserted++atStart).length≤((c.page-1)*c.pageSize).toNat:=by
    rcases List.take_eq_nil_iff.mp empty with none|dropped
    · omega
    · exact List.drop_eq_nil_iff.mp dropped
   have all:∀n∈atStart,n∈handed:=by
    intro n mem
    rw[List.length_append] at past
    rw[←List.take_of_length_le (show atStart.length ≤
     ((c.page-1)*c.pageSize).toNat-inserted.length by omega)] at mem
    rcases earlier n mem with done|pending'
    · exact done
    · cases pending'
   exact ⟨fun n mem=>.inl (all n (List.mem_of_mem_take mem)),by simp[pending],
    fun other=>absurd pending other,fun _=>all⟩
 · refine ⟨?_,by simp[index],?_,?_⟩
   · intro n mem
     have there:n∈atStart.take ((c.page*c.pageSize).toNat-inserted.length):=by
      rw[samePage,sameSize] at mem
      split at mem
      · refine (List.take_prefix_take_left ?_).subset mem
        have shorter:(c.page-1)*c.pageSize≤c.page*c.pageSize:=
         mul_le_mul_of_nonneg_right (by omega) (by omega)
        omega
      · exact mem
     rw[pending,List.mem_eraseDups]
     exact before n there
   · intro _ ends n mem
     have bound:=last ends
     rw[←length,List.length_append] at bound
     rw[pending,List.mem_eraseDups]
     apply before
     rw[List.take_of_length_le (by omega)]
     exact mem
   · intro complete
     rw[incomplete'] at complete
     cases complete

lemma mem_take_succ {l:List String}{i:ℕ}{n:String}(found:l[i]?=some number)
 (mem:n∈l.take (i+1)):n∈l.take i ∨ n=number:=by
 rw[List.take_add_one,found,List.mem_append] at mem
 simpa using mem

lemma Covered.advance (covered:Covered c k atStart handed)
 (due:currentTedPublicationNumber c=some number)(h:advanceTedNotice c=.ok c') :
 Covered c' k atStart (handed++[number]):=by
 obtain ⟨_,found,sameSize,moved⟩:=advanceTedNotice_ok h
 obtain rfl:=Option.mem_unique due found
 obtain ⟨-,-,-,index,-⟩:=cursorFault_none.mp c.form
 have covered:=covered.hand number
 have done:∀n∈c.pendingPublicationNumbers.take (c.nextIndex.toNat+1),n∈handed++[number]:=by
  intro n mem
  rcases mem_take_succ due mem with earlier|this
  · exact covered.done n earlier
  · simp[this]
 have pending:c.pendingPublicationNumbers≠[]:=by
  intro none
  simp[currentTedPublicationNumber,none] at due
 rcases moved with ⟨page,same,next,more,complete⟩|⟨ended,nothing,rest⟩
 · refine ⟨?_,?_,?_,?_⟩
   · rw[page,sameSize,same]
     exact covered.pages
   · have successor:c'.nextIndex.toNat=c.nextIndex.toNat+1:=by omega
     rw[same,successor]
     exact done
   · rw[same,more]
     exact covered.last
   · rw[complete]
     exact covered.complete
 · -- The whole page is handed over.
   have all:∀n∈c.pendingPublicationNumbers,n∈handed++[number]:=by
    intro n mem
    apply done
    rw[List.take_of_length_le (by omega)]
    exact mem
   have pages:=covered.pages
   rw[if_neg pending] at pages
   refine ⟨?_,by simp[nothing],fun other=>absurd nothing other,?_⟩
   · intro n mem
     rcases rest with ⟨-,page,-⟩|⟨last,-⟩
     · rw[if_pos nothing,page,sameSize,add_sub_cancel_right] at mem
       exact .inl ((pages n mem).elim id (all n))
     · have there:=covered.last pending last n (List.mem_of_mem_take mem)
       exact .inl (there.elim id (all n))
   · intro finished n mem
     rcases rest with ⟨-,-,complete⟩|⟨last,-⟩
     · rw[complete] at finished
       exact covered.complete finished n mem
     · exact (covered.last pending last n mem).elim id (all n)

/-- What is stored is a cursor, whose pages are covered; the run goes on with it. -/
structure Sound (s:State):Prop where
 stored:∀m,s.stored=some m→∃c,m=c.asDict ∧ Covered c s.inserted.length s.atStart s.handed
 running:∀c,s.run=some c→s.stored=some c.asDict

lemma sound_fresh:Sound fresh:=⟨by simp[fresh],by simp[fresh]⟩

lemma Sound.halt (sound:Sound s):Sound {s with run:=none}:=⟨sound.stored,by simp⟩

lemma Sound.covered (sound:Sound s)(stored:s.stored=some c.asDict) :
 Covered c s.inserted.length s.atStart s.handed:=by
 obtain ⟨d,same,covered⟩:=sound.stored _ stored
 rw[asDict_inj same]
 exact covered

lemma sound_stored (covered:Covered c s.inserted.length s.atStart s.handed) :
 Sound {s with stored:=some c.asDict,run:=some c}:=by
 refine ⟨fun m stored=>?_,fun d going=>?_⟩
 · cases stored
   exact ⟨c,rfl,covered⟩
 · cases going
   rfl

lemma sound_commit {next:Except Failure TedCycleCursor}(halted:Sound {s with run:=none})
 (covered:∀c,next=.ok c → Covered c s.inserted.length s.atStart s.handed) :
 Sound (commit s next):=by
 cases next with
 | error failure=>exact halted
 | ok c=>exact sound_stored (covered c rfl)

lemma Sound.hand (sound:Sound s)(stored:s.stored=some c.asDict)(number:String) :
 Sound {s with run:=none,handed:=s.handed++[number]}:=by
 refine ⟨fun m there=>?_,by simp⟩
 cases stored.symm.trans there
 exact ⟨c,rfl,(sound.covered stored).hand number⟩

lemma freshCursor_ok {window:SourceWindow}(h:freshCursor window pageSize=.ok c) :
 c.page=1 ∧ c.pendingPublicationNumbers=[] ∧ c.complete=false:=by
 obtain ⟨n,-,h⟩:=PythonValues.bind_ok.mp h
 obtain ⟨-,-,page,-,pending,-,-,complete⟩:=tedCycleCursor_fields h
 exact ⟨page,pending,complete⟩

lemma start_sound {window:SourceWindow}{found:List String}
 (sound:Sound s):Sound (step s (.start window pageSize found)):=by
 simp only[step]
 split
 · exact sound.halt
 rename_i c planned
 unfold planTedCycle at planned
 cases kept:resumable s.stored with
 | error failure=>simp[kept] at planned
 | ok resumed =>
  cases resumed with
  | none =>
   rw[kept] at planned
   obtain ⟨page,pending,incomplete⟩:=freshCursor_ok planned
   rw[if_pos (by simp[begins,kept])]
   refine ⟨fun m stored=>?_,fun d going=>?_⟩
   · cases stored
     refine ⟨c,rfl,?_,?_,?_,?_⟩ <;> simp[page,pending,incomplete]
   · cases going
     rfl
  | some stored =>
   rw[kept] at planned
   cases planned
   rw[if_neg (by simp[begins,kept])]
   cases there:s.stored with
   | none=>simp[there,resumable] at kept
   | some m =>
    obtain ⟨d,rfl,covered⟩:=sound.stored m there
    rw[there,resumable_asDict] at kept
    have same:d=c:=by
     split at kept
     · cases kept
     · cases kept
       rfl
    rw[←same]
    exact sound_stored covered

lemma step_sound (s:State)(op:Step)(sound:Sound s):Sound (step s op):=by
 cases op with
 | start window pageSize found=>exact start_sound sound
 | insert notices =>
  refine ⟨fun m stored=>?_,sound.running⟩
  obtain ⟨c,same,covered⟩:=sound.stored m stored
  exact ⟨c,same,covered.insert (by simp[step])⟩
 | unit fate =>
  simp only[step]
  split
  · exact sound
  rename_i c going
  have stored:=sound.running c going
  have covered:=sound.covered stored
  unfold takeUnit
  split
  · exact sound.halt
  split
  · split
    · exact sound_commit sound.halt fun c' recorded=>covered.search rfl recorded
    · exact sound.halt
  · rename_i number due
    cases fate with
    | failed=>exact sound.halt
    | crashed=>exact sound.hand stored number
    | committed =>
     exact sound_commit (sound.hand stored number) fun c' advanced=>covered.advance due advanced
 | stop=>exact sound.halt

/-- Over every run: what is stored is a cursor that the validator accepts and
that is read back as it was; no unit of named notices is refused by it; and when
it says that the cycle is complete, every notice of the list at the start has
been handed to the pipeline. -/
theorem ted_cycles_are_complete (steps:List Step) :
 (∀m,(steps.foldl step fresh).stored=some m→∃c,fromDict m=.ok c) ∧
 (∀c:TedCycleCursor,fromDict c.asDict=.ok c) ∧
 (∀c,(steps.foldl step fresh).run=some c→c.complete=false →
  (currentTedPublicationNumber c=none→∀listing total,(∀n∈listing,strip n≠"") →
   ∃c',recordTedSearchPage c (searchPage listing c.page c.pageSize) total=.ok c') ∧
  ∀number,currentTedPublicationNumber c=some number→∃c',advanceTedNotice c=.ok c') ∧
 ∀m c,(steps.foldl step fresh).stored=some m→fromDict m=.ok c→c.complete=true →
  ∀n∈(steps.foldl step fresh).atStart,n∈(steps.foldl step fresh).handed:=by
 have sound:Sound (steps.foldl step fresh):=Runs.invariant Sound step_sound steps sound_fresh
 refine ⟨?_,fromDict_asDict,?_,?_⟩
 · intro m stored
   obtain ⟨c,rfl,-⟩:=sound.stored m stored
   exact ⟨c,fromDict_asDict c⟩
 · intro c _ incomplete
   exact ⟨fun due listing total named=>recordTedSearchPage_accepts incomplete due named,
    fun number due=>advanceTedNotice_accepts due⟩
 · intro m c stored decoded complete
   obtain ⟨d,rfl,covered⟩:=sound.stored m stored
   rw[fromDict_asDict] at decoded
   cases decoded
   exact covered.complete complete

def sampleWindow:SourceWindow:=⟨⟨738000,by decide⟩,⟨738001,by decide⟩⟩

/-- Two pages of a list of three notices: the first page's second notice is handed
twice, once before a crash, and a notice published meanwhile moves it to the second
page as well. -/
def sampleCycle:List Step:=
 [.start sampleWindow 2 ["3-2026","2-2026","1-2026"],.unit .committed,.unit .committed,
  .unit .crashed,.insert ["4-2026"],.start sampleWindow 2 [],
  .unit .committed,.unit .committed,.unit .committed,.unit .committed]

example : ((sampleCycle.foldl step fresh).stored.map fun m=>
  (fromDict m).toOption.map (·.complete))=some (some true) ∧
 (sampleCycle.foldl step fresh).handed =
  ["3-2026","2-2026","2-2026","2-2026","1-2026"]:=by
 decide +kernel

end Kivou.TedCycle
