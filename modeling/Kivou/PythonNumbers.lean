import Kivou.AwardDomain
import Kivou.Decimals

set_option autoImplicit false

/-! What `str.isdigit`, `int`, `float` and `decimal.Decimal` make of a text. -/
namespace Kivou.PythonNumbers
open PythonValues AwardDomain Decimals

def otherDigits:List (ℕ × ℕ):=
 [(0xB2,0xB3),(0xB9,0xB9),(0x1369,0x1371),(0x19DA,0x19DA),(0x2070,0x2070),
  (0x2074,0x2079),(0x2080,0x2089),(0x2460,0x2468),(0x2474,0x247C),(0x2488,0x2490),
  (0x24EA,0x24EA),(0x24F5,0x24FD),(0x24FF,0x24FF),(0x2776,0x277E),(0x2780,0x2788),
  (0x278A,0x2792),(0x10A40,0x10A43),(0x10E60,0x10E68),(0x11052,0x1105A),
  (0x1F100,0x1F10A)]

def isDigit (c:Char):Bool:=isDecimal c||otherDigits.any fun block=>block.1≤c.toNat&&c.toNat≤block.2

/-- `str.isdigit`. -/
def allDigits (text:String):Bool:=text != ""&&text.toList.all isDigit

def ofDigits (digits:List ℕ):ℕ:=digits.foldl (fun n d=>10*n+d) 0

def readDigits (cs:List Char):List ℕ × List Char:=
 ((cs.takeWhile isDecimal).filterMap decimalDigit,cs.dropWhile isDecimal)

def readSign:List Char→Bool × List Char
 | '-' :: cs=>(true,cs)
 | '+' :: cs=>(false,cs)
 | cs=>(false,cs)

def readExponent:List Char→Option ℤ
 | []=>some 0
 | e::cs =>
  let (negative,cs):=readSign cs
  let (digits,rest):=readDigits cs
  if (e = 'e' ∨ e = 'E') ∧ digits≠[] ∧ rest=[] then
   some (if negative then -(ofDigits digits:ℤ) else ofDigits digits)
  else none

def readNumber (cs:List Char):Option (List ℕ × ℤ):=
 let (whole,rest):=readDigits cs
 let (fraction,rest):=match rest with
  | '.' :: rest=>readDigits rest
  | _=>([],rest)
 if whole++fraction=[] then none
 else (readExponent rest).map fun exponent=>(whole++fraction,exponent-fraction.length)

inductive Literal where
 | finite (negative:Bool)(digits:List ℕ)(exponent:ℤ)
 | infinite (negative:Bool)
 | nan

def toRat (negative:Bool)(digits:List ℕ)(exponent:ℤ):ℚ:=
 (if negative then -1 else 1)*ofDigits digits*10^exponent

/-- The exponents that a `Decimal` can have. -/
def decimalRange (digits:List ℕ)(exponent:ℤ):Bool:=
 let length:=(digits.dropWhile (· = 0)).length
 (-1999999999999999997:ℤ)≤exponent&&exponent+max (length:ℤ) 1-1≤999999999999999999

/-- `Decimal(text)`; underscores are skipped wherever they stand. -/
def decimal (text:String):Option Literal:=
 let (negative,body):=readSign ((strip text).toList.filter (· != '_'))
 match readNumber body with
 | some (digits,exponent) =>
  if decimalRange digits exponent then some (.finite negative digits exponent) else none
 | none =>
  let word:=body.map Char.toLower
  if word="inf".toList ∨ word="infinity".toList then some (.infinite negative)
  else
   let word:=if word.head?=some 's' then word.tail else word
   if word.take 3="nan".toList ∧ (word.drop 3).all isDecimal then some .nan else none

def underscoresInside:List Char→Bool
 | []=>true
 | '_' :: _=>false
 | c :: '_' :: d::cs=>isDecimal c&&isDecimal d&&underscoresInside (d::cs)
 | [_,'_']=>false
 | _::cs=>underscoresInside cs

/-- The literal that `float(text)` reads. -/
def floatLiteral (text:String):Option Literal:=
 let cs:=(strip text).toList
 if underscoresInside cs then
  let (negative,body):=readSign (cs.filter (· != '_'))
  match readNumber body with
  | some (digits,exponent)=>some (.finite negative digits exponent)
  | none =>
   let word:=body.map Char.toLower
   if word="inf".toList ∨ word="infinity".toList then some (.infinite negative)
   else if word="nan".toList then some .nan
   else none
 else none

def nearestDouble (q:ℚ):Option ℚ:=
 let step:ℚ:=2^max (Int.log 2 |q| - 52) (-1074)
 let rounded:=roundEven (q/step)*step
 if |rounded| < 2^1024 then some rounded else none

def truncate (q:ℚ):ℤ:=if 0≤q then ⌊q⌋ else ⌈q⌉

/-- What `int(float(text))` may raise. -/
inductive NumberError where
 | value | overflow

/-- `int(float(text))`. -/
def intOfFloat (text:String):Except NumberError ℤ:=
 match floatLiteral text with
 | none | some .nan=>.error .value
 | some (.infinite _)=>.error .overflow
 | some (.finite negative digits exponent) =>
  match nearestDouble (toRat negative digits exponent) with
  | none=>.error .overflow
  | some q=>.ok (truncate q)

/-- `int(text)`. -/
def int (text:String):Option ℤ:=
 let cs:=(strip text).toList
 let (negative,body):=readSign (cs.filter (· != '_'))
 let (digits,rest):=readDigits body
 if underscoresInside cs ∧ digits≠[] ∧ rest=[] then
  some (if negative then -(ofDigits digits:ℤ) else ofDigits digits)
 else none

end Kivou.PythonNumbers
