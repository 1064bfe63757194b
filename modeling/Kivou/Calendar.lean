import Mathlib.Tactic.IntervalCases

set_option autoImplicit false

/-! The proleptic Gregorian calendar: a day is its ordinal, the first of January of the year 1 being
day 1, and is written as year, month and day. -/
namespace Kivou.Calendar

def isLeap (year:ℕ):Bool:=year%4==0&&(year%100 != 0||year%400==0)

def daysBeforeYear (year:ℕ):ℕ:=(year-1)*365+(year-1)/4-(year-1)/100+(year-1)/400

def daysBeforeMonth (leap:Bool)(month:ℕ):ℕ:=
 [0,31,59,90,120,151,181,212,243,273,304,334].getD (month-1) 0 +
  if leap&&2 < month then 1 else 0

def daysInMonth (leap:Bool)(month:ℕ):ℕ:=[31,28,31,30,31,30,31,31,30,31,30,31].getD (month-1) 0 +
  if leap&&month==2 then 1 else 0

structure Civil where
 (year month day:ℕ)

def Civil.valid (c:Civil):Bool:=1≤c.year&&c.year≤9999&&1≤c.month&&c.month≤12&&1≤c.day &&
  c.day≤daysInMonth (isLeap c.year) c.month

def toOrdinal (c:Civil):ℕ:=daysBeforeYear c.year+daysBeforeMonth (isLeap c.year) c.month+c.day

def yearOf (ordinal:ℕ):ℕ × ℕ:=
 let n:=ordinal-1
 let n400:=n/146097
 let n100:=n%146097/36524
 let n4:=n%146097%36524/1461
 let n1:=n%146097%36524%1461/365
 let year:=n400*400+n100*100+n4*4+n1
 if n1=4 ∨ n100=4 then (year,365) else (year+1,n%146097%36524%1461%365)

def monthOf (leap:Bool)(dayOfYear:ℕ):ℕ × ℕ:=
 let month:=(dayOfYear+50)/32
 let month:=if dayOfYear<daysBeforeMonth leap month then month-1 else month
 (month,dayOfYear-daysBeforeMonth leap month+1)

def ofOrdinal (ordinal:ℕ):Civil:=
 let (year,dayOfYear):=yearOf ordinal
 let (month,day):=monthOf (isLeap year) dayOfYear
 ⟨year,month,day⟩

def daysInYear (leap:Bool):ℕ:=if leap then 366 else 365

def maxOrdinal:ℕ:=3652059

lemma isLeap_iff (year:ℕ) : isLeap year=true ↔ year%4=0 ∧ (year%100≠0 ∨ year%400=0):=by
 simp[isLeap]

lemma daysInYear_cases (year:ℕ) :
 (year%4=0 ∧ (year%100≠0 ∨ year%400=0)) ∧ daysInYear (isLeap year)=366 ∨
  ¬(year%4=0 ∧ (year%100≠0 ∨ year%400=0)) ∧ daysInYear (isLeap year)=365:=by
 cases leap:isLeap year with
 | true=>exact .inl ⟨(isLeap_iff year).mp leap,rfl⟩
 | false =>
  refine .inr ⟨fun h=>?_,rfl⟩
  rw[(isLeap_iff year).mpr h] at leap
  cases leap

lemma leapDays {a b c e:ℕ}(hb:b≤3)(hc:c≤24)(he:e≤3) : (400*a+100*b+4*c+e)/4=100*a+25*b+c ∧
  (400*a+100*b+4*c+e)/100=4*a+b ∧
  (400*a+100*b+4*c+e)/400=a:=by
 refine ⟨?_,?_,?_⟩ <;> omega

lemma yearOf_spec {ordinal:ℕ}(h:1≤ordinal) : 1≤(yearOf ordinal).1 ∧
  daysBeforeYear (yearOf ordinal).1+(yearOf ordinal).2+1=ordinal ∧
  (yearOf ordinal).2<daysInYear (isLeap (yearOf ordinal).1):=by
 obtain ⟨n,rfl⟩:∃n,ordinal=n+1:=⟨ordinal-1,by omega⟩
 obtain ⟨a,ha⟩:∃a,n/146097=a:=⟨_,rfl⟩
 obtain ⟨b,hb⟩:∃b,n%146097/36524=b:=⟨_,rfl⟩
 obtain ⟨c,hc⟩:∃c,n%146097%36524/1461=c:=⟨_,rfl⟩
 obtain ⟨e,he⟩:∃e,n%146097%36524%1461/365=e:=⟨_,rfl⟩
 obtain ⟨f,hf⟩:∃f,n%146097%36524%1461%365=f:=⟨_,rfl⟩
 have parts:n=146097*a+36524*b+1461*c+365*e+f:=by omega
 have small:b≤4 ∧ c≤24 ∧ e≤4 ∧ f<365:=by omega
 unfold yearOf
 simp only[Nat.add_sub_cancel,ha,hb,hc,he,hf]
 by_cases last:e=4 ∨ b=4
 · -- The last day of a leap year that closes a cycle.
   rw[if_pos last]
   have days:=daysInYear_cases (a*400+b*100+c*4+e)
   have closing:f=0 ∧ (b=4 ∧ c=0 ∧ e=0 ∨ b≤3 ∧ c≤23 ∧ e=4):=by omega
   dsimp only
   unfold daysBeforeYear
   obtain ⟨rfl,⟨rfl,rfl,rfl⟩|⟨century,four,rfl⟩⟩:=closing
   · obtain ⟨q4,q100,q400⟩:=@leapDays a 3 24 3 (by omega) (by omega) (by omega)
     have year:a*400+4*100+0*4+0-1=400*a+100*3+4*24+3:=by omega
     rw[year,q4,q100,q400]
     omega
   · obtain ⟨q4,q100,q400⟩:=@leapDays a b c 3 century (by omega) (by omega)
     have year:a*400+b*100+c*4+4-1=400*a+100*b+4*c+3:=by omega
     rw[year,q4,q100,q400]
     omega
 · rw[if_neg last]
   have days:=daysInYear_cases (a*400+b*100+c*4+e+1)
   dsimp only
   unfold daysBeforeYear
   obtain ⟨q4,q100,q400⟩:=@leapDays a b c e (by omega) (by omega) (by omega)
   have year:a*400+b*100+c*4+e+1-1=400*a+100*b+4*c+e:=by omega
   rw[year,q4,q100,q400]
   omega

set_option maxRecDepth 4000 in
lemma monthOf_table : ([true,false].all fun leap=>(List.range (daysInYear leap)).all fun n=>
  1≤(monthOf leap n).1&&(monthOf leap n).1≤12&&1≤(monthOf leap n).2 &&
   (monthOf leap n).2≤daysInMonth leap (monthOf leap n).1 &&
   daysBeforeMonth leap (monthOf leap n).1+(monthOf leap n).2==n+1)=true:=by
 rfl

lemma monthOf_spec {leap:Bool}{n:ℕ}(h:n<daysInYear leap) :
 1≤(monthOf leap n).1 ∧ (monthOf leap n).1≤12 ∧ 1≤(monthOf leap n).2 ∧
  (monthOf leap n).2≤daysInMonth leap (monthOf leap n).1 ∧
  daysBeforeMonth leap (monthOf leap n).1+(monthOf leap n).2=n+1:=by
 have row:=List.all_eq_true.mp monthOf_table leap (by cases leap <;> simp)
 have entry:=List.all_eq_true.mp row n (List.mem_range.mpr h)
 simpa[and_assoc] using entry

lemma toOrdinal_ofOrdinal {ordinal:ℕ}(h:1≤ordinal):toOrdinal (ofOrdinal ordinal)=ordinal:=by
 obtain ⟨-,year,within⟩:=yearOf_spec h
 obtain ⟨-,-,-,-,month⟩:=monthOf_spec within
 simp only[toOrdinal,ofOrdinal]
 omega

lemma ofOrdinal_valid {ordinal:ℕ}(h:1≤ordinal)(max:ordinal ≤ maxOrdinal) :
 (ofOrdinal ordinal).valid=true:=by
 obtain ⟨first,year,within⟩:=yearOf_spec h
 obtain ⟨low,high,one,last,-⟩:=monthOf_spec within
 have bound:(yearOf ordinal).1≤9999:=by
  unfold maxOrdinal at max
  unfold daysBeforeYear at year
  omega
 simp[Civil.valid,ofOrdinal,first,bound,low,high,one,last]

def digit (n:ℕ):Char:=Char.ofNat (48+n%10)

def readDigit (c:Char):Option ℕ:=
 if 48≤c.toNat ∧ c.toNat≤57 then some (c.toNat-48) else none

lemma readDigit_digit (n:ℕ):readDigit (digit n)=some (n%10):=by
 have less:n%10<10:=Nat.mod_lt _ (by decide)
 unfold digit
 interval_cases n%10 <;> rfl

def readNumber (digits:List Char):Option ℕ:=
 digits.foldl (fun total c=>total.bind fun t=>(readDigit c).map (10*t+·)) (some 0)

/-- `YYYY-MM-DD`. -/
def isoChars (c:Civil):List Char:=
 [digit (c.year/1000),digit (c.year/100),digit (c.year/10),digit c.year,'-',
  digit (c.month/10),digit c.month,'-',digit (c.day/10),digit c.day]

def isoformat (date:ℤ):String:=String.ofList (isoChars (ofOrdinal date.toNat))

def dateOf (year month day:Option ℕ):Option ℤ:=year.bind fun y=>month.bind fun m=>day.bind fun d=>
  if (Civil.mk y m d).valid then some (toOrdinal ⟨y,m,d⟩) else none

def isoWeekOneMonday (year:ℕ):ℤ:=
 let first:ℤ:=toOrdinal ⟨year,1,1⟩
 let weekday:=(first+6)%7
 let monday:=first-weekday
 if 3<weekday then monday+7 else monday

def weekOf (year week day:Option ℕ):Option ℤ:=year.bind fun y=>week.bind fun w=>day.bind fun d=>
  let first:=toOrdinal ⟨y,1,1⟩%7
  let long:=first==4||(first==3&&isLeap y)
  if 1≤y ∧ 1≤w ∧ (w<53 ∨ w=53 ∧ long=true) ∧ 1≤d ∧ d≤7 then
   let ordinal:=isoWeekOneMonday y+(w-1)*7+(d-1)
   if 1≤ordinal ∧ ordinal ≤ maxOrdinal then some ordinal else none
  else none

def fromisoformat (text:String):Option ℤ:=
 match text.toList with
 | [a,b,c,d,'-',m,n,'-',x,y] =>dateOf (readNumber [a,b,c,d]) (readNumber [m,n]) (readNumber [x,y])
 | [a,b,c,d,'-','W',m,n,'-',x] =>weekOf (readNumber [a,b,c,d]) (readNumber [m,n]) (readNumber [x])
 | [a,b,c,d,'-','W',m,n]=>weekOf (readNumber [a,b,c,d]) (readNumber [m,n]) (some 1)
 | [a,b,c,d,'W',m,n,x] =>weekOf (readNumber [a,b,c,d]) (readNumber [m,n]) (readNumber [x])
 | [a,b,c,d,'W',m,n]=>weekOf (readNumber [a,b,c,d]) (readNumber [m,n]) (some 1)
 | [a,b,c,d,m,n,x,y] =>dateOf (readNumber [a,b,c,d]) (readNumber [m,n]) (readNumber [x,y])
 | _=>none

lemma readNumber_two {n:ℕ}(h:n<100):readNumber [digit (n/10),digit n]=some n:=by
 simp only[readNumber,List.foldl,readDigit_digit,Option.map_some,Option.bind_some]
 congr 1
 omega

lemma readNumber_four {n:ℕ}(h:n<10000) :
 readNumber [digit (n/1000),digit (n/100),digit (n/10),digit n]=some n:=by
 simp only[readNumber,List.foldl,readDigit_digit,Option.map_some,Option.bind_some]
 congr 1
 omega

def isDate (date:ℤ):Bool:=1≤date&&date ≤ maxOrdinal

lemma daysInMonth_le (leap:Bool)(month:ℕ):daysInMonth leap month≤32:=by
 have table:∀n∈[31,28,31,30,31,30,31,31,30,31,30,31],n≤31:=by decide
 have entry:[31,28,31,30,31,30,31,31,30,31,30,31].getD (month-1) 0≤31:=by
  rw[List.getD_eq_getElem?_getD]
  cases found:[31,28,31,30,31,30,31,31,30,31,30,31][month-1]? with
  | none=>exact Nat.zero_le _
  | some n=>exact table n (List.mem_of_getElem? found)
 unfold daysInMonth
 split <;> omega

lemma fromisoformat_isoformat {date:ℤ}(h:isDate date=true) :
 fromisoformat (isoformat date)=some date:=by
 simp only[isDate,Bool.and_eq_true,decide_eq_true_eq] at h
 have low:1≤date.toNat:=by omega
 have high:date.toNat ≤ maxOrdinal:=by omega
 have valid:=ofOrdinal_valid low high
 have parts:=valid
 simp only[Civil.valid,Bool.and_eq_true,decide_eq_true_eq] at parts
 have days:=daysInMonth_le (isLeap (ofOrdinal date.toNat).year) (ofOrdinal date.toNat).month
 rw[fromisoformat,isoformat,String.toList_ofList,isoChars]
 simp only[]
 rw[readNumber_four (by omega),readNumber_two (by omega),readNumber_two (by omega)]
 simp only[dateOf,Option.bind_some]
 rw[if_pos valid,toOrdinal_ofOrdinal low]
 congr 1
 omega

end Kivou.Calendar
