import Kivou.HistorySelection

set_option autoImplicit false

/-! `history_page` reads the signals after its cursor in batches, until the page is full and another
item was seen behind it, until the rows are exhausted, or until it has read `scan_cap` of them. On
the first page it reads on to count. The cursor it gives leads on from the last item returned when
the page is full, else from the last row read. Followed to the end, the pages list every signal of
the consultation once, in its order. -/
namespace Kivou.HistoryPages
open AwardDomain StoredCursors HistoryCursors HistorySelection

structure HistoryFeedPage where
 items:List FeedSignal
 limit:ℕ
 (cursor nextCursor:Option String)
 (hasMore scanTruncated:Bool)
 (excludedWithoutDisplayName excludedByFilters:ℕ)
 statusCounts:UnifiedStatus→ℕ
 countsTruncated:Bool
 excludedByStatus:ℕ
 countsAvailable:Bool

inductive HistoryError where
 | scanCapNotPositive
 | cursor (error:CursorError)
 | foreignTargetIcp (targetIcpId:String)

/-- `HISTORY_SCAN_BATCH`. -/
def historyScanBatch:ℕ:=100

/-- `HISTORY_SCAN_CAP`. -/
def historyScanCap:ℤ:=500

/-- `MAXIMUM_PAGE_SIZE`. -/
def maximumPageSize:ℤ:=50

structure Scan where
 selected:List FeedSignal
 (excludedWithoutName excludedByFilters excludedByStatus:ℕ)
 statusCounts:UnifiedStatus→ℕ
 scanned:ℕ
 (position lastReturned:Option HistoryCursor)
 (foundMore stoppedEarly:Bool)

section loop

variable (r:Readings)(db:Database)(c:Consultation)(limit cap:ℕ)(countsAvailable:Bool)

def currentPosition (s:StoredSignal):HistoryCursor:=cursorForSignal s c.contextTag c.sort

def counted (scan:Scan)(unified:UnifiedStatus):UnifiedStatus→ℕ:=
 if countsAvailable then fun status=>
  if status=unified then scan.statusCounts status+1 else scan.statusCounts status
 else scan.statusCounts

def readRow (scan:Scan)(s:StoredSignal):Scan:=
 let scan:={scan with position:=some (currentPosition c s),scanned:=scan.scanned+1}
 match judge r db c s with
 | .withoutName=>{scan with excludedWithoutName:=scan.excludedWithoutName+1}
 | .filtered=>{scan with excludedByFilters:=scan.excludedByFilters+1}
 | .otherStatus unified=>{scan with
   statusCounts:=counted countsAvailable scan unified
   excludedByStatus:=scan.excludedByStatus+1}
 | .admitted unified item =>
  let scan:={scan with statusCounts:=counted countsAvailable scan unified}
  if scan.selected.length<limit then
   {scan with
     selected:=scan.selected++[item]
     lastReturned:=some (currentPosition c s)}
  else {scan with foundMore:=true,stoppedEarly:=!countsAvailable}

def readRows:Scan→List StoredSignal→Scan
 | scan,[]=>scan
 | scan,s::rows =>
  let scan:=readRow r db c limit countsAvailable scan s
  if scan.stoppedEarly then scan else readRows scan rows

def fetch (position:Option HistoryCursor)(batchLimit:ℕ):List StoredSignal:=
 (orderBy c.sort ((ownershipScoped db c.accountId).filter fun s=>
  wheres c s&&position.all fun p=>historyAfter p s)).take batchLimit

/-- The outer loop, and whether the rows are exhausted. A turn reads a row at least,
so that it takes no more turns than the cap. -/
def scanBatches:ℕ→Scan→Scan × Bool
 | 0,scan=>(scan,false)
 | turns+1,scan =>
  if scan.scanned<cap then
   let batchLimit:=min historyScanBatch (cap-scan.scanned)
   let rows:=fetch db c scan.position batchLimit
   if rows=[] then (scan,true)
   else
    let scan:=readRows r db c limit countsAvailable scan rows
    if scan.stoppedEarly then (scan,false)
    else if rows.length<batchLimit then (scan,true)
    else scanBatches turns scan
  else (scan,false)

end loop

def emptyScan (position:Option HistoryCursor):Scan:=⟨[],0,0,0,fun _=>0,0,position,none,false,false⟩

def pageOf (limit:ℕ)(cursor:Option String)(result:Scan × Bool):HistoryFeedPage:=
 let (scan,exhausted):=result
 let truncated:=!exhausted&&!scan.stoppedEarly
 { items:=scan.selected
   limit
   cursor
   nextCursor:=
    if exhausted then if scan.foundMore then scan.lastReturned.map encodeHistoryCursor else none
    else if scan.selected.length=limit then scan.lastReturned.map encodeHistoryCursor
    else
     match scan.position with
     | some position=>some (encodeHistoryCursor position)
     | none=>scan.lastReturned.map encodeHistoryCursor
   hasMore:=!exhausted||scan.foundMore
   scanTruncated:=truncated
   excludedWithoutDisplayName:=scan.excludedWithoutName
   excludedByFilters:=scan.excludedByFilters
   statusCounts:=scan.statusCounts
   countsTruncated:=truncated&&cursor.isNone
   excludedByStatus:=scan.excludedByStatus
   countsAvailable:=cursor.isNone}

def emptyPage (limit:ℕ)(cursor:Option String):HistoryFeedPage:=
 ⟨[],limit,cursor,none,false,false,0,0,fun _=>0,false,0,true⟩

def decoded:Option String→Except HistoryError (Option HistoryCursor)
 | none=>.ok none
 | some text =>
  match decodeHistoryCursor text with
  | .ok cursor=>.ok (some cursor)
  | .error error=>.error (.cursor error)

def foreignCursor (c:Consultation)(cursor:HistoryCursor):Bool:=
 (cursor.contextTag.isSome&&cursor.contextTag != c.contextTag)||cursor.sort != c.sort

def pageLimit (c:Consultation):ℕ:=(max 1 (min c.limit maximumPageSize)).toNat

def historyPage (r:Readings)(db:Database)(c:Consultation)(cursor:Option String) :
 Except HistoryError HistoryFeedPage:=
 let cap:=c.scanCap.getD historyScanCap
 if cap<1 then .error .scanCapNotPositive
 else do
  let position ←decoded cursor
  if position.any (foreignCursor c) then .error (.cursor .invalidHistoryCursor)
  else
   let owned:=ownedTargetIcps db c.accountId
   match c.targetIcpId.filter fun id=>!owned.any fun p=>p.targetIcpId==id with
   | some id=>.error (.foreignTargetIcp id)
   | none =>
    if !owned.any (fun p=>p.status==feedingIcpStatus)||c.allowedTargetIcpIds==some [] then
     .ok (emptyPage (pageLimit c) cursor)
    else
     .ok (pageOf (pageLimit c) cursor
      (scanBatches r db c (pageLimit c) cap.toNat cursor.isNone cap.toNat (emptyScan position)))

def following (page:HistoryFeedPage):Option (Option String):=
 if page.hasMore then some page.nextCursor else none

def follow (r:Readings)(db:Database)(c:Consultation)(requests:ℕ) :
 Except HistoryError (List HistoryFeedPage):=
 Keyset.walk (historyPage r db c) following requests none

def candidates (db:Database)(c:Consultation):List StoredSignal:=
 orderBy c.sort ((ownershipScoped db c.accountId).filter (wheres c))

lemma keyed_candidates (db:Database)(c:Consultation) :
 Keyed ((ownershipScoped db c.accountId).filter (wheres c)):=
 (keyed_ownershipScoped db c.accountId).sublist (List.filter_sublist.map _)

lemma marks (db:Database)(c:Consultation) :
 Keyset.Marks historyAfter (currentPosition c) (Precedes c.sort) (candidates db c) where
 strict:=orderBy_strict (keyed_candidates db c) c.sort
 asymm:=precedes_asymm
 tells s _ t _:=historyAfter_cursor s t c.contextTag c.sort

lemma fetch_eq (db:Database)(c:Consultation)(position:Option HistoryCursor)(n:ℕ) :
 fetch db c position n=(Keyset.remaining historyAfter (candidates db c) position).take n:=by
 have keyed:=keyed_candidates db c
 unfold fetch
 congr 1
 cases position with
 | none =>
  simp only[Option.all_none,Bool.and_true]
  rfl
 | some p =>
  have both:(ownershipScoped db c.accountId).filter (fun s=>wheres c s&&historyAfter p s) =
    ((ownershipScoped db c.accountId).filter (wheres c)).filter (historyAfter p):=by
   rw[List.filter_filter]
   exact List.filter_congr fun s _=>Bool.and_comm _ _
  simp only[Option.all_some,both]
  exact orderBy_filter keyed c.sort _

section reached

variable {r:Readings}{db:Database}{c:Consultation}{limit cap:ℕ}{countsAvailable:Bool}
 {start:Option HistoryCursor}

/-- The state of the loop after the rows `done`. -/
structure Reached (r:Readings)(db:Database)(c:Consultation)(limit:ℕ)
  (start:Option HistoryCursor)(done:List StoredSignal)(scan:Scan):Prop where
 selected:scan.selected=(done.filterMap (itemOf r db c)).take limit
 found:scan.foundMore=true ↔ limit<(done.filterMap (itemOf r db c)).length
 scanned:scan.scanned=done.length
 position:scan.position=(done.getLast?.map (currentPosition c)).or start
 returned:scan.selected≠[]→∃front s back,done=front++s::back ∧
  scan.lastReturned=some (currentPosition c s) ∧
  (front++[s]).filterMap (itemOf r db c)=scan.selected
 early:scan.stoppedEarly=true→scan.foundMore=true

lemma reached_empty (r:Readings)(db:Database)(c:Consultation)(limit:ℕ)
 (start:Option HistoryCursor):Reached r db c limit start [] (emptyScan start) where
 selected:=List.take_nil.symm
 found:=by simp[emptyScan]
 scanned:=rfl
 position:=rfl
 returned filled:=absurd rfl filled
 early:=nofun

lemma Reached.skip {done:List StoredSignal}{scan scan':Scan}{s:StoredSignal}
 (h:Reached r db c limit start done scan)(skipped:itemOf r db c s=none)
 (selected:scan'.selected=scan.selected)(found:scan'.foundMore=scan.foundMore)
 (scanned:scan'.scanned=scan.scanned+1)
 (position:scan'.position=some (currentPosition c s))
 (returned:scan'.lastReturned=scan.lastReturned)
 (early:scan'.stoppedEarly=scan.stoppedEarly) :
 Reached r db c limit start (done++[s]) scan':=by
 have same:(done++[s]).filterMap (itemOf r db c)=done.filterMap (itemOf r db c):=by
  rw[List.filterMap_append,List.filterMap_cons_none skipped,List.filterMap_nil,List.append_nil]
 refine ⟨?_,?_,?_,?_,fun filled=>?_,fun stopped=>?_⟩
 · rw[selected,same]
   exact h.selected
 · rw[found,same]
   exact h.found
 · rw[scanned,h.scanned,List.length_append,List.length_singleton]
 · rw[position,List.getLast?_concat]
   rfl
 · rw[selected] at filled ⊢
   obtain ⟨front,t,back,split,last,items⟩:=h.returned filled
   exact ⟨front,t,back++[s],by rw[split,List.append_assoc];rfl,returned.trans last,items⟩
 · rw[found]
   exact h.early (early ▸ stopped)

variable (countsAvailable) in
lemma readRow_reached {done:List StoredSignal}{scan:Scan}(s:StoredSignal)
 (h:Reached r db c limit start done scan) :
 Reached r db c limit start (done++[s]) (readRow r db c limit countsAvailable scan s):=by
 unfold readRow
 cases verdict:judge r db c s with
 | withoutName | filtered | otherStatus =>
  exact h.skip (by rw[itemOf,verdict]) rfl rfl rfl rfl rfl rfl
 | admitted unified item =>
  have admitted:itemOf r db c s=some item:=by rw[itemOf,verdict]
  have more:(done++[s]).filterMap (itemOf r db c)=done.filterMap (itemOf r db c)++[item]:=by
   rw[List.filterMap_append,List.filterMap_cons_some admitted,List.filterMap_nil]
  have length:=congrArg List.length h.selected
  rw[List.length_take] at length
  simp only
  by_cases room:scan.selected.length<limit
  · rw[if_pos room]
    have all:scan.selected=done.filterMap (itemOf r db c):=by
     rw[h.selected]
     exact List.take_of_length_le (by omega)
    have none':scan.foundMore=false:=by
     refine Bool.eq_false_iff.mpr fun is=>?_
     have longer:=h.found.mp is
     omega
    refine ⟨?_,?_,?_,?_,fun _=>⟨done,s,[],rfl,rfl,?_⟩,h.early⟩
    · rw[more,List.take_of_length_le,all]
      rw[List.length_append,List.length_singleton,←all]
      omega
    · rw[more,List.length_append,List.length_singleton,←all]
      change scan.foundMore=true ↔ _
      rw[none']
      simp only[Bool.false_eq_true,false_iff]
      omega
    · rw[List.length_append,List.length_singleton,←h.scanned]
    · rw[List.getLast?_concat]
      rfl
    · rw[more,←all]
  · rw[if_neg room]
    have full:limit≤(done.filterMap (itemOf r db c)).length:=by omega
    refine ⟨?_,?_,?_,?_,fun filled=>?_,fun _=>rfl⟩
    · rw[more,List.take_append_of_le_length full]
      exact h.selected
    · rw[more,List.length_append,List.length_singleton]
      simp only[true_iff]
      omega
    · rw[List.length_append,List.length_singleton,←h.scanned]
    · rw[List.getLast?_concat]
      rfl
    · obtain ⟨front,t,back,split,last,items⟩:=h.returned filled
      exact ⟨front,t,back++[s],by rw[split,List.append_assoc];rfl,last,items⟩

variable (countsAvailable) in
lemma readRows_reached {done:List StoredSignal}{scan:Scan}(rows:List StoredSignal)
 (h:Reached r db c limit start done scan) :
 ∃front back,rows=front++back ∧
  Reached r db c limit start (done++front) (readRows r db c limit countsAvailable scan rows) ∧
  ((readRows r db c limit countsAvailable scan rows).stoppedEarly=false →
   back=[]):=by
 induction rows generalizing done scan with
 | nil=>exact ⟨[],[],rfl,by rw[List.append_nil];exact h,fun _=>rfl⟩
 | cons s rows ih =>
  have one:=readRow_reached countsAvailable s h
  rw[readRows]
  split
  · rename_i stopped
    refine ⟨[s],rows,rfl,one,fun going=>?_⟩
    rw[stopped] at going
    cases going
  · obtain ⟨front,back,split,read,rest⟩:=ih one
    refine ⟨s::front,back,by rw[split];rfl,?_,rest⟩
    rw[List.append_assoc] at read
    exact read

lemma Reached.remaining_position {read done todo:List StoredSignal}{scan:Scan}
 (h:Reached r db c limit start done scan)(whole:candidates db c=read++(done++todo))
 (rest:Keyset.remaining historyAfter (candidates db c) start=done++todo) :
 Keyset.remaining historyAfter (candidates db c) scan.position=todo:=by
 rw[h.position]
 rcases List.eq_nil_or_concat done with rfl|⟨front,s,rfl⟩
 · exact rest
 · rw[List.concat_eq_append,List.getLast?_concat]
   have split:candidates db c=(read++front)++s::todo:=by
    rw[whole,List.concat_eq_append,List.append_assoc,List.append_assoc]
    rfl
   exact (marks db c).remaining_mark split

/-- The loop ended with part of the rows that were left: all of them when they are
exhausted, else by stopping early or at the cap. -/
def Covers (r:Readings)(db:Database)(c:Consultation)(limit cap:ℕ)
 (start:Option HistoryCursor)(done todo:List StoredSignal)(result:Scan × Bool):Prop:=
 ∃front back,todo=front++back ∧ Reached r db c limit start (done++front) result.1 ∧
  (result.2=true→back=[]) ∧
  (result.2=false → result.1.stoppedEarly=true ∨ cap≤result.1.scanned)

lemma scanBatches_covers {read:List StoredSignal}(turns:ℕ){done todo:List StoredSignal}
 {scan:Scan}(h:Reached r db c limit start done scan)
 (whole:candidates db c=read++(done++todo))
 (rest:Keyset.remaining historyAfter (candidates db c) start=done++todo)
 (enough:cap ≤ scan.scanned+turns) :
 Covers r db c limit cap start done todo
  (scanBatches r db c limit cap countsAvailable turns scan):=by
 induction turns generalizing done todo scan with
 | zero =>
  refine ⟨[],todo,rfl,?_,nofun,fun _=>Or.inr enough⟩
  rw[List.append_nil]
  exact h
 | succ turns ih =>
  have batch:=fetch_eq db c scan.position (min historyScanBatch (cap-scan.scanned))
  rw[h.remaining_position whole rest] at batch
  unfold scanBatches
  by_cases below:scan.scanned<cap
  · have some':0 < min historyScanBatch (cap-scan.scanned):=by
     unfold historyScanBatch
     omega
    simp only[if_pos below,batch]
    by_cases none':todo.take (min historyScanBatch (cap-scan.scanned))=[]
    · rw[if_pos none']
      have nothing:todo=[]:=by
       rcases List.take_eq_nil_iff.mp none' with zero|nothing
       · omega
       · exact nothing
      refine ⟨[],todo,rfl,?_,fun _=>nothing,nofun⟩
      rw[List.append_nil]
      exact h
    · rw[if_neg none']
      obtain ⟨front,back,split,reached,all⟩:=readRows_reached countsAvailable
       (todo.take (min historyScanBatch (cap-scan.scanned))) h
      have parts:todo=front++(back++todo.drop (min historyScanBatch (cap-scan.scanned))):=by
       rw[←List.append_assoc,←split,List.take_append_drop]
      split_ifs with stopped short
      · exact ⟨front,_,parts,reached,nofun,fun _=>Or.inl stopped⟩
      · obtain rfl:=all (Bool.eq_false_iff.mpr stopped)
        refine ⟨front,_,parts,reached,fun _=>?_,nofun⟩
        rw[List.length_take] at short
        rw[List.nil_append]
        exact List.drop_eq_nil_of_le (by omega)
      · obtain rfl:=all (Bool.eq_false_iff.mpr stopped)
        rw[List.append_nil] at split
        rw[List.nil_append] at parts
        have whole':candidates db c=read++((done++front) ++
          todo.drop (min historyScanBatch (cap-scan.scanned))):=by
         rw[List.append_assoc,←parts]
         exact whole
        have rest':Keyset.remaining historyAfter (candidates db c) start=(done++front) ++
          todo.drop (min historyScanBatch (cap-scan.scanned)):=by
         rw[List.append_assoc,←parts]
         exact rest
        have nonempty:0<front.length:=List.length_pos_iff.mpr (split ▸ none')
        have further:cap≤(readRows r db c limit countsAvailable scan
          (todo.take (min historyScanBatch (cap-scan.scanned)))).scanned+turns:=by
         rw[reached.scanned,List.length_append,←h.scanned]
         omega
        obtain ⟨front',back',split',reached',all',ends'⟩:=ih reached whole' rest' further
        refine ⟨front++front',back',?_,?_,all',ends'⟩
        · rw[List.append_assoc,←split']
          exact parts
        · rw[←List.append_assoc]
          exact reached'
  · rw[if_neg below]
    refine ⟨[],todo,rfl,?_,nofun,fun _=>Or.inr (Nat.le_of_not_lt below)⟩
    rw[List.append_nil]
    exact h

def markText (c:Consultation)(s:StoredSignal):String:=encodeHistoryCursor (currentPosition c s)

lemma Reached.cut {done:List StoredSignal}{scan:Scan}
 (h:Reached r db c limit start done scan)(filled:scan.selected≠[])
 (back:List StoredSignal) :
 ∃s,scan.lastReturned=some (currentPosition c s) ∧
  Keyset.Page (markText c) (itemOf r db c) (done++back) scan.selected (some (markText c s)):=by
 obtain ⟨front,s,behind,split,last,items⟩:=h.returned filled
 refine ⟨s,last,?_⟩
 rw[←items]
 have whole:done++back=front++s::(behind++back):=by
  rw[split,List.append_assoc]
  rfl
 exact Keyset.Page.cut whole

lemma pageOf_serves {rest:List StoredSignal}{result:Scan × Bool}(cursor:Option String)
 (covers:Covers r db c limit cap start [] rest result)(some':1≤limit)(positive:1≤cap) :
 ∃more,following (pageOf limit cursor result)=more.map some ∧
  Keyset.Page (markText c) (itemOf r db c) rest (pageOf limit cursor result).items more:=by
 obtain ⟨scan,exhausted⟩:=result
 obtain ⟨front,back,rfl,reached,all,ends⟩:=covers
 rw[List.nil_append] at reached
 dsimp only at reached all ends
 have length:=congrArg List.length reached.selected
 rw[List.length_take] at length
 have full:scan.foundMore=true→scan.selected≠[]:=by
  intro found
  have longer:=reached.found.mp found
  exact List.ne_nil_of_length_pos (by omega)
 cases exhausted with
 | true =>
  obtain rfl:=all rfl
  cases found:scan.foundMore with
  | true =>
   obtain ⟨s,last,page⟩:=reached.cut (full found) []
   refine ⟨some (markText c s),?_,page⟩
   simp only[following,pageOf,found,last,Bool.or_true,if_true,Option.map_some]
   rfl
  | false =>
   have short:(front.filterMap (itemOf r db c)).length≤limit:=by
    refine Nat.le_of_not_lt fun longer=>?_
    have is:=reached.found.mpr longer
    rw[found] at is
    cases is
   refine ⟨none,?_,?_⟩
   · simp only[following,pageOf,found]
     rfl
   · change Keyset.Page _ _ _ scan.selected none
     have items:scan.selected=(front++[]).filterMap (itemOf r db c):=by
      rw[List.append_nil]
      exact reached.selected.trans (List.take_of_length_le short)
     rw[items]
     exact Keyset.Page.last
 | false =>
  by_cases whole:scan.selected.length=limit
  · obtain ⟨s,last,page⟩:=reached.cut (List.ne_nil_of_length_pos (by omega)) back
    refine ⟨some (markText c s),?_,page⟩
    simp only[following,pageOf,whole,last]
    rfl
  · have fewer:(front.filterMap (itemOf r db c)).length<limit:=by omega
    have going:scan.stoppedEarly≠true:=fun stopped=>by
     have longer:=reached.found.mp (reached.early stopped)
     omega
    have capped:cap≤front.length:=by
     rw[←reached.scanned]
     exact (ends rfl).resolve_left going
    rcases List.eq_nil_or_concat front with rfl|⟨before,s,rfl⟩
    · rw[List.length_nil] at capped
      omega
    · rw[List.concat_eq_append] at reached fewer ⊢
      have position:scan.position=some (currentPosition c s):=by
       have is:=reached.position
       rw[List.getLast?_concat] at is
       exact is
      refine ⟨some (markText c s),?_,?_⟩
      · simp only[following,pageOf,whole,position]
        rfl
      · change Keyset.Page _ _ _ scan.selected _
        have items:scan.selected=(before++[s]).filterMap (itemOf r db c):=
         reached.selected.trans (List.take_of_length_le (Nat.le_of_lt fewer))
        rw[items]
        exact Keyset.Page.cut (List.append_assoc before [s] back)

end reached

section walk

variable {r:Readings}{db:Database}{c:Consultation}

def afterText (text:String)(s:StoredSignal):Bool:=
 match decodeHistoryCursor text with
 | .ok cursor=>historyAfter cursor s
 | .error _=>false

lemma decode_markText (c:Consultation)(s:StoredSignal) :
 decodeHistoryCursor (markText c s)=.ok (carried (currentPosition c s)):=
 decode_encode (carriable_cursorForSignal s c.contextTag c.sort)

lemma afterText_markText (c:Consultation)(s:StoredSignal) :
 afterText (markText c s)=historyAfter (currentPosition c s):=by
 funext t
 rw[afterText,decode_markText]
 exact historyAfter_carried _ t

lemma marksText (db:Database)(c:Consultation) :
 Keyset.Marks afterText (markText c) (Precedes c.sort) (candidates db c) where
 strict:=(marks db c).strict
 asymm:=precedes_asymm
 tells s here t there:=by
  rw[afterText_markText]
  exact (marks db c).tells s here t there

lemma carried_sort (cursor:HistoryCursor) :
 (carried cursor).sort=cursor.sort ∧ (carried cursor).contextTag=cursor.contextTag:=by
 unfold carried
 split
 · exact ⟨rfl,rfl⟩
 · exact ⟨rfl,rfl⟩

lemma own_cursor (c:Consultation)(s:StoredSignal) :
 foreignCursor c (carried (currentPosition c s))=false:=by
 obtain ⟨sort,tag⟩:=carried_sort (currentPosition c s)
 rw[foreignCursor,sort,tag]
 simp[currentPosition,cursorForSignal]

lemma decoded_known (db:Database){cursor:Option String}
 (known:∀text∈cursor,∃s∈candidates db c,text=markText c s) :
 ∃position,decoded cursor=.ok position ∧ position.any (foreignCursor c)=false ∧
  Keyset.remaining historyAfter (candidates db c) position =
   Keyset.remaining afterText (candidates db c) cursor:=by
 cases cursor with
 | none=>exact ⟨none,rfl,rfl,rfl⟩
 | some text =>
  obtain ⟨s,-,rfl⟩:=known text rfl
  refine ⟨some (carried (currentPosition c s)),?_,own_cursor c s,?_⟩
  · rw[decoded,decode_markText]
  · refine List.filter_congr fun t _=>?_
    rw[afterText,decode_markText]

lemma candidates_empty (none':(!(ownedTargetIcps db c.accountId).any
 (fun p=>p.status==feedingIcpStatus)||c.allowedTargetIcpIds==some [])=true) :
 candidates db c=[]:=by
 have nothing:(ownershipScoped db c.accountId).filter (wheres c)=[]:=by
  refine List.filter_eq_nil_iff.mpr fun s mem passes=>?_
  rcases Bool.or_eq_true_iff.mp none' with starved|forbidden
  · obtain ⟨row,listed,rfl⟩:=List.mem_map.mp mem
    obtain ⟨p,there,owner⟩:=List.any_eq_true.mp (List.mem_filter.mp listed).2
    simp only[Bool.and_eq_true] at owner
    obtain ⟨⟨⟨⟨⟨-,account⟩,feeding⟩,-⟩,-⟩,-⟩:=owner
    have fed:(ownedTargetIcps db c.accountId).any (fun p=>p.status==feedingIcpStatus)=true:=
     List.any_eq_true.mpr ⟨p,List.mem_filter.mpr ⟨there,account⟩,feeding⟩
    rw[fed] at starved
    cases starved
  · have allowed:c.allowedTargetIcpIds=some []:=beq_iff_eq.mp forbidden
    simp[wheres,given,allowed] at passes
 rw[candidates,nothing]
 refine List.eq_nil_iff_forall_not_mem.mpr fun s mem=>?_
 cases mem_orderBy.mp mem

def foreignProfile (db:Database)(c:Consultation):Option String:=
 c.targetIcpId.filter fun id=>!(ownedTargetIcps db c.accountId).any fun p=>p.targetIcpId==id

lemma historyPage_serves (cap:∀n∈c.scanCap,1≤n)(own:foreignProfile db c=none)
 (cursor:Option String)(known:∀text∈cursor,∃s∈candidates db c,text=markText c s) :
 ∃page more,historyPage r db c cursor=.ok page ∧ following page=more.map some ∧
  Keyset.Page (markText c) (itemOf r db c) (Keyset.remaining afterText (candidates db c) cursor)
   page.items more:=by
 obtain ⟨position,read,accepted,rest⟩:=decoded_known db known
 have positive:1≤c.scanCap.getD historyScanCap:=by
  cases is:c.scanCap with
  | none=>decide
  | some n=>exact cap n is
 have limit:1≤pageLimit c:=by
  unfold pageLimit
  omega
 rw[foreignProfile] at own
 unfold historyPage
 simp only[read,bind,Except.bind,accepted,own,Bool.false_eq_true,if_false]
 rw[if_neg (by omega)]
 split_ifs with none'
 · refine ⟨_,none,rfl,rfl,?_⟩
   have nothing:Keyset.remaining afterText (candidates db c) cursor=[]:=by
    rw[candidates_empty none']
    cases cursor <;> rfl
   rw[nothing]
   exact Keyset.Page.last
 · obtain ⟨front,whole⟩:=(marksText db c).remaining_suffix known
   rw[←rest] at whole
   have covers:Covers r db c (pageLimit c) (c.scanCap.getD historyScanCap).toNat position []
     (Keyset.remaining historyAfter (candidates db c) position)
     (scanBatches r db c (pageLimit c) (c.scanCap.getD historyScanCap).toNat cursor.isNone
      (c.scanCap.getD historyScanCap).toNat (emptyScan position)):=
    scanBatches_covers _ (reached_empty r db c (pageLimit c) position) whole rfl
     (Nat.le_add_left _ _)
   rw[rest] at covers
   obtain ⟨more,follows,page⟩:=pageOf_serves cursor covers limit (by omega)
   exact ⟨_,more,rfl,follows,page⟩

def Passes (r:Readings)(db:Database)(c:Consultation)(s:StoredSignal):Prop:=
 wheres c s=true ∧ ∃item,itemOf r db c s=some item

structure Listed (r:Readings)(db:Database)(c:Consultation)(items:List FeedSignal) : Prop where
 all:∀s,(∃item∈items,item.signal=s) ↔ s∈ownershipScoped db c.accountId ∧ Passes r db c s
 once:(items.map fun item=>item.signal.signalKey).Nodup
 inOrder:items.Pairwise fun i j=>Precedes c.sort i.signal j.signal

lemma listed_candidates (r:Readings)(db:Database)(c:Consultation) :
 Listed r db c ((candidates db c).filterMap (itemOf r db c)) where
 all s:=by
  constructor
  · rintro ⟨item,mem,rfl⟩
    obtain ⟨s,here,admitted⟩:=List.mem_filterMap.mp mem
    obtain rfl:=itemOf_signal admitted
    obtain ⟨owned,passes⟩:=List.mem_filter.mp (mem_orderBy.mp here)
    exact ⟨owned,passes,item,admitted⟩
  · rintro ⟨owned,passes,item,admitted⟩
    exact ⟨item,List.mem_filterMap.mpr ⟨s,mem_orderBy.mpr (List.mem_filter.mpr ⟨owned,passes⟩),
     admitted⟩,itemOf_signal admitted⟩
 once:=by
  have apart:(candidates db c).Pairwise fun s t=>s.signalKey.text≠t.signalKey.text:=
   List.pairwise_map.mp ((keyed_candidates db c).orderBy c.sort)
  refine List.pairwise_map.mpr (List.pairwise_filterMap.mpr
   (apart.imp fun other i admitted j admitted' same=>?_))
  rw[itemOf_signal admitted,itemOf_signal admitted'] at same
  exact other (congrArg SignalKey.text same)
 inOrder:=by
  refine List.pairwise_filterMap.mpr ((marks db c).strict.imp fun before i admitted j admitted'=>?_)
  rw[itemOf_signal admitted,itemOf_signal admitted']
  exact before

lemma historyPage_foreign {id:String}(cap:∀n∈c.scanCap,1≤n) (foreign:foreignProfile db c=some id) :
 historyPage r db c none=.error (.foreignTargetIcp id):=by
 have positive:1≤c.scanCap.getD historyScanCap:=by
  cases is:c.scanCap with
  | none=>decide
  | some n=>exact cap n is
 rw[foreignProfile] at foreign
 unfold historyPage
 simp only[decoded,bind,Except.bind,Option.any_none,foreign,Bool.false_eq_true,if_false]
 rw[if_neg (by omega)]

lemma carried_eq_iff (s:StoredSignal)(tag:Option ContextTag)(sort:SortOrder) :
 carried (cursorForSignal s tag sort)=cursorForSignal s tag sort ↔
  tag.isSome ∨ sort=.amount ∨ s.amount=none ∧ s.currency=none:=by
 unfold carried cursorForSignal
 cases sort with
 | amount=>simp
 | recent =>
  cases tag with
  | some tag=>simp
  | none=>simp[eq_comm]

/-- The pages of a consultation list its signals once, in order, unless it asks for
a profile that is not the account's; and a cursor is always accepted and read as
what it carries, which is all that its order needs. -/
theorem history_is_walked_once (r:Readings)(db:Database)(c:Consultation) (cap:∀n∈c.scanCap,1≤n) :
 ((∃id,foreignProfile db c=some id ∧
   historyPage r db c none=.error (.foreignTargetIcp id)) ∨
  ∃pages,follow r db c ((candidates db c).length+1)=.ok pages ∧
   Keyset.Complete following pages ∧ Listed r db c (pages.flatMap HistoryFeedPage.items)) ∧
 ∀ (s:StoredSignal)(tag:Option ContextTag)(sort:SortOrder),
  (encodeHistoryCursor (cursorForSignal s tag sort)).toList.length ≤ maxEncodedCursorLength ∧
  decodeHistoryCursor (encodeHistoryCursor (cursorForSignal s tag sort)) =
   .ok (carried (cursorForSignal s tag sort)) ∧
  (carried (cursorForSignal s tag sort)=cursorForSignal s tag sort ↔
   tag.isSome ∨ sort=.amount ∨ s.amount=none ∧ s.currency=none) ∧
  ∀t,historyAfter (carried (cursorForSignal s tag sort)) t =
   historyAfter (cursorForSignal s tag sort) t:=by
 refine ⟨?_,fun s tag sort=>?_⟩
 · cases own:foreignProfile db c with
   | some id=>exact Or.inl ⟨id,rfl,historyPage_foreign cap own⟩
   | none =>
    obtain ⟨pages,walked,complete,items⟩:=Keyset.walk_complete (marksText db c)
     (historyPage_serves (r:=r) cap own)
    exact Or.inr ⟨pages,walked,complete,items ▸ listed_candidates r db c⟩
 · have carriable:=carriable_cursorForSignal s tag sort
   exact ⟨length_encodeHistoryCursor carriable,decode_encode carriable,carried_eq_iff s tag sort,
    historyAfter_carried _⟩

end walk

def sampleKey:SignalKey:=⟨"00112233445566778899aabbccddeeff00112233",by decide +kernel⟩

def sampleSignal:StoredSignal where
 signalKey:=sampleKey
 opportunityKey:="opp"
 materializationAwardKey:="award"
 targetIcpId:="icp"
 winnerName:=some "Alpine Bau"
 winnerCountry:=some "CH"
 winnerIdentifierScheme:=none
 winnerIdentifierValue:=none
 sourceCountry:="CH"
 publishedOn:=none
 title:=some "Roof"
 cpvMain:=none
 amount:=some ⟨125000,by decide⟩
 currency:=some ⟨"CHF",rfl⟩
 awardDate:=some ⟨739000,rfl⟩
 contractNotificationDate:=none

def sampleDatabase:Database where
 targetIcps:=[⟨"icp","acc","Roofs","active",none,1⟩]
 signals:=[⟨sampleSignal,1,false⟩]
 distinct:=List.nodup_singleton _

def sampleReadings:Readings where
 officialHolder _:=none
 representations _:=[]
 hasDisplayObject _:=true
 recencyStatus _ _:="fresh_award"
 customerEventType _:=none
 subdivision _:=none
 objectShort text:=some text
 normalizeText:=id

def sampleConsultation:Consultation where
 accountId:="acc"
 asOf:=⟨739100,rfl⟩
 targetIcpId:=none
 allowedTargetIcpIds:=none
 primaryEvent:=none
 country:=none
 subdivisionCode:=none
 status:=none
 cpvPrefix:=none
 dateFrom:=none
 dateTo:=none
 minAmount:=none
 textQuery:=none
 winner:=none
 limit:=1
 scanCap:=some 1
 statusOf:=none
 statuses:=none
 consultationScope:=none
 sort:=.recent
 contextTag:=none

theorem history_is_walked_once_sample :
 ∃pages,follow sampleReadings sampleDatabase sampleConsultation
   ((candidates sampleDatabase sampleConsultation).length+1)=.ok pages ∧
  Keyset.Complete following pages ∧
  Listed sampleReadings sampleDatabase sampleConsultation (pages.flatMap HistoryFeedPage.items):=by
 have cap:∀n∈sampleConsultation.scanCap,1≤n:=by
  rintro n ⟨⟩
  exact le_refl 1
 exact (history_is_walked_once sampleReadings sampleDatabase sampleConsultation cap).1.resolve_left
  nofun

/-- Without a tag the recent order leaves the amount out of the text. -/
theorem recent_cursor_drops_its_amount :
 ¬ ∀ (s:StoredSignal)(tag:Option ContextTag)(sort:SortOrder),
  decodeHistoryCursor (encodeHistoryCursor (cursorForSignal s tag sort)) =
   .ok (cursorForSignal s tag sort):=by
 intro claimed
 have whole:=claimed sampleSignal none .recent
 rw[decode_encode (carriable_cursorForSignal sampleSignal none .recent)] at whole
 have amounts:=congrArg HistoryCursor.amount (Except.ok.inj whole)
 cases amounts

end Kivou.HistoryPages
