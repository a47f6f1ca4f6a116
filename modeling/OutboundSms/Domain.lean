/-!
# Transport domains, message formats and traffic classes

The closed vocabularies that routing decisions range over.
-/

set_option autoImplicit false

namespace OutboundSms

/-- The path a message travels over: packet-switched through IMS, or
circuit-switched through the modem. -/
inductive Domain where
  | ps
  | cs
  deriving DecidableEq, Repr, Inhabited

namespace Domain

def isPs : Domain → Bool
  | .ps => true
  | .cs => false

def isCs : Domain → Bool
  | .ps => false
  | .cs => true

def display : Domain → String
  | .ps => "PS"
  | .cs => "CS"

end Domain

/-- The encoding family of a transport. The circuit-switched transport in use is
the one whose format is that of the phone's current voice technology. -/
inductive SmsFormat where
  | threeGpp
  | threeGpp2
  deriving DecidableEq, Repr, Inhabited

def SmsFormat.display : SmsFormat → String
  | .threeGpp => "3gpp"
  | .threeGpp2 => "3gpp2"

/-- Traffic classes are selected for and queued independently of each other. -/
inductive TrafficClass where
  | normal
  | emergency
  deriving DecidableEq, Repr, Inhabited

namespace TrafficClass

def ofEmergency : Bool → TrafficClass
  | true => .emergency
  | false => .normal

def isEmergency : TrafficClass → Bool
  | .normal => false
  | .emergency => true

def display : TrafficClass → String
  | .normal => "normal"
  | .emergency => "emergency"

@[simp] theorem ofEmergency_isEmergency (trafficClass : TrafficClass) :
    ofEmergency trafficClass.isEmergency = trafficClass := by
  cases trafficClass <;> rfl

@[simp] theorem isEmergency_ofEmergency (emergency : Bool) :
    (ofEmergency emergency).isEmergency = emergency := by
  cases emergency <;> rfl

end TrafficClass

end OutboundSms
