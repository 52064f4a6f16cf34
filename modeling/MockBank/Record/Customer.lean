/-
Customers.  A client gives a profile; the service gives it an id and two timestamps.
-/
import MockBank.Record.Entity
import MockBank.Schema.Tables

namespace MockBank

/-- where a customer lives; the country has two letters -/
structure Address where
  street : String
  city : String
  state : Option String
  country : String
  postalCode : String
  deriving DecidableEq

/-- a customer as a client describes it -/
structure Profile where
  customerType : CustomerType
  firstName : String
  lastName : String
  email : String
  phone : Option String
  dateOfBirth : Option Date
  address : Address
  kycStatus : KycStatus
  riskProfile : RiskProfile
  status : CustomerStatus
  deriving DecidableEq

/-- a customer as the bank knows it -/
structure Customer where
  id : String
  profile : Profile
  createdAt : DateTime
  updatedAt : DateTime
  deriving DecidableEq

namespace Address

/-- the members in order -/
def members (a : Address) : List (String × Json) :=
  [("street", .string a.street),
    ("city", .string a.city),
    ("state", Wire.text.optional.write a.state),
    ("country", .string a.country),
    ("postalCode", .string a.postalCode)]

def shape : Shape Address :=
  (Shape.pure Address.mk)
    |>.seq (.field "street" .text)
    |>.seq (.field "city" .text)
    |>.seq (.optional "state" .text)
    |>.seq (.field "country" .text)
    |>.seq (.field "postalCode" .text)

instance : Entity Address where
  table := .address
  shape := shape
  members := members

end Address

namespace Profile

/-- the members in order -/
def members (p : Profile) : List (String × Json) :=
  [("customerType", (Wire.named CustomerType).write p.customerType),
    ("firstName", .string p.firstName),
    ("lastName", .string p.lastName),
    ("email", .string p.email),
    ("phone", Wire.text.optional.write p.phone),
    ("dateOfBirth", Wire.date.optional.write p.dateOfBirth),
    ("address", .object p.address.members),
    ("kycStatus", (Wire.named KycStatus).write p.kycStatus),
    ("riskProfile", (Wire.named RiskProfile).write p.riskProfile),
    ("status", (Wire.named CustomerStatus).write p.status)]

def shape : Shape Profile :=
  (Shape.pure Profile.mk)
    |>.seq (.field "customerType" (.named CustomerType))
    |>.seq (.field "firstName" .text)
    |>.seq (.field "lastName" .text)
    |>.seq (.field "email" .text)
    |>.seq (.optional "phone" .text)
    |>.seq (.optional "dateOfBirth" .date)
    |>.seq (.field "address" (.record Address.members Address.shape))
    |>.seq (.field "kycStatus" (.named KycStatus))
    |>.seq (.field "riskProfile" (.named RiskProfile))
    |>.seq (.field "status" (.named CustomerStatus))

instance : Entity Profile where
  table := .customer
  shape := shape
  members := members

/-- the customer that a profile becomes at a time -/
def toCustomer (p : Profile) (id : String) (now : DateTime) : Customer :=
  ⟨id, p, now, now⟩

end Profile

namespace Customer

/-- the members in order: the id, the profile, the timestamps -/
def members (c : Customer) : List (String × Json) :=
  ("id", .string c.id) :: (c.profile.members ++
    [("createdAt", Wire.dateTime.write c.createdAt), ("updatedAt", Wire.dateTime.write c.updatedAt)])

def shape : Shape Customer :=
  (Shape.pure Customer.mk)
    |>.seq (.field "id" .text)
    |>.seq Profile.shape
    |>.seq (.field "createdAt" .dateTime)
    |>.seq (.field "updatedAt" .dateTime)

instance : Entity Customer where
  table := .customer
  shape := shape
  members := members

end Customer

end MockBank
