import Kivou.Calendar

set_option autoImplicit false

/-! The checkpoint of a source keeps its cursor as a JSON mapping. A day is an ordinal that the
calendar can name. -/
namespace Kivou.StoredCursors
open Calendar

/-- A value of a JSON mapping; what is no cursor's value is `other`. -/
inductive Value where
 | null
 | bool (b:Bool)
 | int (n:ℤ)
 | text (s:String)
 | list (items:List Value)
 | other

abbrev Mapping:=List (String × Value)

def Mapping.get? (m:Mapping)(key:String):Option Value:=
 (m.find? (fun entry=>entry.1==key)).map Prod.snd

/-- `isinstance(value, int) and not isinstance(value, bool)`. -/
def Value.integer?:Value→Option ℤ
 | .int n=>some n
 | _=>none

/-- A value equals a number: `True` is one. -/
def Value.equals (v:Value)(n:ℤ):Bool:=
 match v with
 | .int m=>m==n
 | .bool b=>(if b then 1 else 0)==n
 | _=>false

/-- `str(value)`, of the values whose text may be a date. -/
def Value.str?:Value→Option String
 | .text s=>some s
 | .int n=>some (toString n)
 | _=>none

structure Day where
 ordinal:ℤ
 inRange:isDate ordinal=true
 deriving DecidableEq

namespace Day

def of (ordinal:ℤ):Option Day:=if h:isDate ordinal=true then some ⟨ordinal,h⟩ else none

def isoformat (d:Day):String:=Calendar.isoformat d.ordinal
def fromisoformat (text:String):Option Day:=(Calendar.fromisoformat text).bind of

/-- A day `n` days later; none when the calendar ends before. -/
def plus (d:Day)(n:ℤ):Option Day:=of (d.ordinal+n)

lemma of_ordinal (d:Day):of d.ordinal=some d:=dif_pos d.inRange

lemma fromisoformat_isoformat (d:Day):fromisoformat d.isoformat=some d:=by
 rw[fromisoformat,isoformat,Calendar.fromisoformat_isoformat d.inRange]
 exact of_ordinal d

end Day

structure SourceWindow where
 (since through:Day)

end Kivou.StoredCursors
