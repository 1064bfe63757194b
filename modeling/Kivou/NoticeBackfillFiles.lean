import Kivou.NoticeBackfill

set_option autoImplicit false

/-! A cursor holds a hundred places and a hundred outcomes at most, so its file stays within its
limit as long as the text of no event key takes more than 1136 bytes. -/
namespace Kivou.NoticeBackfill

lemma utf8Size_append (a b:List Char):utf8Size (a++b)=utf8Size a+utf8Size b:=by
 simp[utf8Size]

lemma utf8Size_le {bound:ℕ}(text:List Char)(h:∀c∈text,c.utf8Size≤bound) :
 utf8Size text≤bound*text.length:=by
 induction text with
 | nil=>simp[utf8Size]
 | cons c text ih =>
  have head:=h c List.mem_cons_self
  have tail:=ih fun d mem=>h d (List.mem_cons_of_mem c mem)
  simp only[utf8Size,List.map_cons,List.sum_cons,List.length_cons] at tail ⊢
  rw[Nat.mul_succ]
  omega

def isPlain (c:Char):Bool:=c.isAlphanum||c == '_'

lemma plain_val {c:Char}(h:isPlain c=true):48≤c.toNat ∧ c.toNat≤122 ∧ c.toNat≠92:=by
 delta isPlain Char.isAlphanum Char.isAlpha Char.isUpper Char.isLower Char.isDigit at h
 simp only[Bool.or_eq_true,Bool.and_eq_true,decide_eq_true_eq,beq_iff_eq] at h
 rcases h with ((⟨low,high⟩|⟨low,high⟩)|⟨low,high⟩)|rfl
 · have low':65≤c.toNat:=low
   have high':c.toNat≤90:=high
   omega
 · have low':97≤c.toNat:=low
   have high':c.toNat≤122:=high
   omega
 · have low':48≤c.toNat:=low
   have high':c.toNat≤57:=high
   omega
 · decide

lemma utf8Size_ascii {c:Char}(h:c.toNat≤127):c.utf8Size=1:=Char.utf8Size_eq_one_iff.mpr h

lemma escape_plain {c:Char}(h:isPlain c=true):utf8Size (escape c)=1:=by
 obtain ⟨low,high,back⟩:=plain_val h
 have quote:c ≠ '"' := by
  rintro rfl
  exact absurd low (by decide)
 have slash:c ≠ '\\' := by
  rintro rfl
  exact absurd rfl back
 have rest:escape c=[c]:=by
  unfold escape
  rw[if_neg quote,if_neg slash,if_neg (by omega),if_neg (by omega),if_neg (by omega),
   if_neg (by omega),if_neg (by omega),if_neg (by omega)]
 rw[rest]
 simp[utf8Size,utf8Size_ascii (c:=c) (by omega)]

lemma quoted_plain {text:String}(h:text.toList.all isPlain=true) :
 utf8Size (quoted text)=text.length+2:=by
 have inner:∀chars:List Char,chars.all isPlain=true →
   utf8Size (chars.flatMap escape)=chars.length:=by
  intro chars plain
  induction chars with
  | nil=>rfl
  | cons c chars ih =>
   rw[List.all_cons,Bool.and_eq_true] at plain
   rw[List.flatMap_cons,utf8Size_append,escape_plain plain.1,ih plain.2,List.length_cons]
   omega
 have quote:utf8Size ['"']=1:=rfl
 rw[quoted,utf8Size_append,utf8Size_append,inner _ h,quote,String.length_toList]
 omega

lemma number_size {n k:ℕ}(some:0<k)(h:n<10^k):utf8Size (number n)≤k:=by
 have digits:(Nat.toDigits 10 n).length≤k:=(Nat.length_toDigits_le_iff (by decide) some).mpr h
 have each:∀c∈Nat.toDigits 10 n,c.utf8Size≤1:=by
  intro c mem
  have digit:c.isDigit=true:=Nat.isDigit_of_mem_toDigits (by decide) (by decide) mem
  have plain:isPlain c=true:=by simp[isPlain,Char.isAlphanum,digit]
  rw[utf8Size_ascii (by have:=plain_val plain;omega)]
 have size:=utf8Size_le _ each
 unfold number
 omega

lemma array_size {bound:ℕ}(items:List (List Char))(h:∀item∈items,utf8Size item≤bound) :
 utf8Size (array items)≤2+items.length*(bound+1):=by
 have inner:∀items:List (List Char),(∀item∈items,utf8Size item≤bound) →
   utf8Size (items.intersperse [',']).flatten ≤ items.length*(bound+1):=by
  intro items each
  induction items with
  | nil=>simp[utf8Size]
  | cons item items ih =>
   have head:=each item List.mem_cons_self
   have tail:=ih fun other mem=>each other (List.mem_cons_of_mem item mem)
   have comma:utf8Size [',']=1:=rfl
   cases items with
   | nil =>
    simp only[List.intersperse_singleton,List.flatten_cons,List.flatten_nil,List.append_nil,
     List.length_singleton]
    omega
   | cons next rest =>
    rw[List.intersperse_cons_cons,List.flatten_cons,List.flatten_cons,utf8Size_append,
     utf8Size_append,comma,List.length_cons,Nat.add_mul]
    omega
 have brackets:utf8Size ['[']=1 ∧ utf8Size [']']=1:=⟨rfl,rfl⟩
 have items:=inner items h
 rw[array,utf8Size_append,utf8Size_append,brackets.1,brackets.2]
 omega

def plainReason (reason:Option String):Prop:=
 ∀text,reason=some text→text.length≤128 ∧ text.toList.all isPlain=true

lemma nullable_size {text:Option String}(h:plainReason text):utf8Size (nullable text)≤130:=by
 cases text with
 | none=>decide
 | some text =>
  obtain ⟨short,plain⟩:=h text rfl
  change utf8Size (quoted text)≤130
  rw[quoted_plain plain]
  omega

lemma hash_size {hash:Option String}(h:hash.all isSha256=true) : utf8Size (nullable hash)≤66:=by
 cases hash with
 | none=>decide
 | some text =>
  simp only[Option.all_some,isSha256,Bool.and_eq_true,decide_eq_true_eq] at h
  have plain:text.toList.all isPlain=true:=by
   rw[List.all_eq_true]
   intro c mem
   have hex:=List.all_eq_true.mp h.2 c mem
   simp only[isHexChar,Bool.or_eq_true,Bool.and_eq_true,decide_eq_true_eq] at hex
   delta isPlain Char.isAlphanum Char.isAlpha Char.isUpper Char.isLower Char.isDigit
   simp only[Bool.or_eq_true,Bool.and_eq_true,decide_eq_true_eq]
   rcases hex with ⟨low,high⟩|⟨low,high⟩
   · exact .inl (.inr ⟨low,high⟩)
   · refine .inl (.inl (.inr ⟨low,?_⟩))
     have letter:c.toNat≤122:=by omega
     exact letter
  change utf8Size (quoted text)≤66
  rw[quoted_plain plain,h.1]

structure NoticeBackfillAttempt.Fits (a:NoticeBackfillAttempt):Prop where
 named:1≤a.eventKey.length ∧ a.eventKey.length≤256
 sized:utf8Size (quoted a.eventKey)≤1136
 attempts:1≤a.attempts ∧ a.attempts≤3
 reason:plainReason a.reason

lemma NoticeBackfillAttempt.Fits.valid {a:NoticeBackfillAttempt}(h:a.Fits) : a.valid=true:=by
 have short:a.reason.all (·.length≤128)=true:=by
  cases reason:a.reason with
  | none=>rfl
  | some text=>simpa using (h.reason text reason).1
 simp[NoticeBackfillAttempt.valid,h.named,h.attempts,short]

lemma attempt_size (a:NoticeBackfillAttempt):utf8Size a.json =
 13+utf8Size (quoted a.eventKey)+12+utf8Size (number a.attempts)+10 +
  utf8Size (nullable a.reason)+1:=by
 have key:utf8Size "\x7b\"event_key\":".toList=13:=by decide +kernel
 have attempts:utf8Size ",\"attempts\":".toList=12:=by decide +kernel
 have reason:utf8Size ",\"reason\":".toList=10:=by decide +kernel
 have brace:utf8Size ['\x7d']=1:=by decide
 unfold NoticeBackfillAttempt.json
 iterate 6 rw[utf8Size_append]
 rw[key,attempts,reason,brace]

lemma NoticeBackfillAttempt.Fits.size {a:NoticeBackfillAttempt}(h:a.Fits) : utf8Size a.json≤1303:=by
 have total:∀ {key attempts text:ℕ},key≤1136→attempts≤1→text≤130 →
   13+key+12+attempts+10+text+1≤1303:=by omega
 have digit:a.attempts<10^1:=by
  have few:=h.attempts
  omega
 exact (attempt_size a).le.trans
  (total h.sized (number_size (by decide) digit) (nullable_size h.reason))

structure NoticeBackfillCursor.Fits (c:NoticeBackfillCursor):Prop where
 hash:c.selectionHash.all isSha256=true
 named:c.afterEventKey.length≤256
 sized:utf8Size (quoted c.afterEventKey)≤1136
 pendingLength:c.pending.length≤100
 terminalLength:c.terminal.length≤100
 pending:∀a∈c.pending,a.Fits
 terminal:∀a∈c.terminal,a.Fits
 distinct:(c.pending.map (·.eventKey)).Nodup
 count:c.terminalCount<2^64

lemma attempts_size {items:List NoticeBackfillAttempt}(h:∀a∈items,a.Fits) (few:items.length≤100) :
 utf8Size (array (items.map (·.json)))≤2+100*1304:=by
 have size:=@array_size 1303 (items.map (·.json)) (by
  intro item mem
  obtain ⟨a,there,rfl⟩:=List.mem_map.mp mem
  exact (h a there).size)
 rw[List.length_map] at size
 have scaled:items.length*(1303+1)≤100*1304:=Nat.mul_le_mul_right 1304 few
 exact size.trans (Nat.add_le_add_left scaled 2)

lemma cursor_size (c:NoticeBackfillCursor):utf8Size c.json =
 18+utf8Size (nullable c.selectionHash)+19+utf8Size (quoted c.afterEventKey)+11 +
  utf8Size (array (c.pending.map (·.json)))+12 +
  utf8Size (array (c.terminal.map (·.json)))+18+utf8Size (number c.terminalCount)+1:=by
 have hash:utf8Size "\x7b\"selection_hash\":".toList=18:=by decide +kernel
 have position:utf8Size ",\"after_event_key\":".toList=19:=by decide +kernel
 have pending:utf8Size ",\"pending\":".toList=11:=by decide +kernel
 have terminal:utf8Size ",\"terminal\":".toList=12:=by decide +kernel
 have count:utf8Size ",\"terminal_count\":".toList=18:=by decide +kernel
 have brace:utf8Size ['\x7d']=1:=by decide
 unfold NoticeBackfillCursor.json
 iterate 10 rw[utf8Size_append]
 rw[hash,position,pending,terminal,count,brace]

lemma NoticeBackfillCursor.Fits.loads {c:NoticeBackfillCursor}(h:c.Fits) : c.loads=true:=by
 have valid:c.valid=true:=by
  have pending:c.pending.all (·.valid)=true:=List.all_eq_true.mpr fun a mem=>(h.pending a mem).valid
  have terminal:c.terminal.all (·.valid)=true:=
   List.all_eq_true.mpr fun a mem=>(h.terminal a mem).valid
  simp[NoticeBackfillCursor.valid,h.hash,h.named,h.pendingLength,h.terminalLength,pending,
   terminal,h.distinct]
 have size:utf8Size c.json≤256*1024:=by
  have total:∀ {hash key pending terminal count:ℕ},hash≤66→key≤1136 →
    pending≤2+100*1304→terminal≤2+100*1304→count≤20 →
    18+hash+19+key+11+pending+12+terminal+18+count+1≤256*1024:=by
   omega
  have digits:c.terminalCount<10^20:=lt_trans h.count (by decide)
  exact (cursor_size c).le.trans (total (hash_size h.hash) h.sized
   (attempts_size h.pending h.pendingLength) (attempts_size h.terminal h.terminalLength)
   (number_size (by decide) digits))
 simp[NoticeBackfillCursor.loads,size,valid]

end Kivou.NoticeBackfill
