import Mathlib.Data.List.Basic

set_option autoImplicit false

/-! `signals.billing.catalogue`: the plans of an account, the two currencies and the stable lookup
key of each price. -/
namespace Kivou.BillingCatalogue

inductive PlanCode where
 | discovery | essential | pro
 deriving DecidableEq

def PlanCode.code:PlanCode→String
 | .discovery=>"discovery"
 | .essential=>"essential"
 | .pro=>"pro"

inductive Currency where
 | chf | eur
 deriving DecidableEq

def Currency.code:Currency→String
 | .chf=>"chf"
 | .eur=>"eur"

def catalogueVersion:String:="kivou-plans-v0.1"

def discoveryGrantLimit:ℕ:=3

def foundingEffectiveMinorUnits:ℕ:=2900

def purchasablePlans:List PlanCode:=[.essential,.pro]
def currencies:List Currency:=[.chf,.eur]

def planRank:PlanCode→Option ℕ
 | .discovery=>none
 | .essential=>some 0
 | .pro=>some 1

/-- `MONTHLY_MINOR_UNITS`: the same in both currencies; Discovery is not sold. -/
def monthlyMinorUnits:PlanCode→Currency→Option ℕ
 | .discovery,_=>none
 | .essential,_=>some 4900
 | .pro,_=>some 9900

def lookupKeyFor (plan:PlanCode)(currency:Currency):Option String:=
 if plan∈purchasablePlans then some ("kivou_"++plan.code++"_monthly_"++currency.code)
 else none

def catalogue:List (PlanCode × Currency):=
 purchasablePlans.flatMap fun plan=>currencies.map fun currency=>(plan,currency)

def planForLookupKey (lookupKey:Option String):Option (PlanCode × Currency):=
 lookupKey.bind fun key=>catalogue.find? fun entry=>lookupKeyFor entry.1 entry.2==some key

lemma planForLookupKey_lookupKeyFor (plan:PlanCode)(currency:Currency)
 (sold:plan∈purchasablePlans) :
 planForLookupKey (lookupKeyFor plan currency)=some (plan,currency):=by
 cases plan with
 | discovery=>simp[purchasablePlans] at sold
 | essential | pro=>cases currency <;> decide +kernel

end Kivou.BillingCatalogue
