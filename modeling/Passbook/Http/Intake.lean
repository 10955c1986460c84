import Passbook.Form.Field
import Passbook.Http.Route
import Passbook.Json.Encoding
import Passbook.Json.Reader
import Passbook.Store.Cell
/-! What requests carry, read and checked before anything is done with it. -/
namespace Passbook.Http
open Form

inductive Rejection where
  | complaints (list : List Complaint)
  | unreadableBody

inductive Bound where
  | above (n : Int)
  | atLeast (n : Int)
  | atMost (n : Int)

def Bound.check (value : Int) : Bound → Except Problem Unit
  | .above n => if n < value then .ok () else .error (.notAbove n)
  | .atLeast n => if n ≤ value then .ok () else .error (.below n)
  | .atMost n => if value ≤ n then .ok () else .error (.above n)

def positiveAmount : List Bound := [.above 0, .atMost maxInteger]

private def within (bounds : List Bound) (value : Int) : Except Problem Int := do
  bounds.forM (Bound.check value)
  return value

def bodyField (body : Json) (name : String) (bounds : List Bound := []) : Except (List Complaint) Int :=
  let outcome : Except Problem Int := match body.member? name with
    | none => .error .absent
    | some value => integer value >>= within bounds
  outcome.mapError fun problem => [⟨[.string "body", .string name], problem, (body.member? name).getD body⟩]

def readBody (body : Option String) : Except Rejection Json := do
  let complain (place : List Json) (problem : Problem) (found : Json) : Except Rejection Json :=
    .error (.complaints [⟨.string "body" :: place, problem, found⟩])
  match body.filter (· ≠ "") with
  | none => complain [] .absent .null
  | some body =>
    let some text := Json.decodeBytes? (Text.utf8Bytes body) | throw .unreadableBody
    match Json.read text with
    | .error (.unexpected position) => complain [.int position] .notJson (.object [])
    | .error _ => throw .unreadableBody
    | .ok (.object members) => return .object members
    | .ok value => complain [] .notObject value

def fromBody {α : Type} (body : Option String) (read : Json → Except (List Complaint) α) : Except Rejection α := do
  let value ← readBody body
  (read value).mapError .complaints

namespace Fields

/-- Reads a field where it comes from, by one of two readers; nothing is read of one that is absent from the query. -/
private def read {α : Type} (fields : Fields) (name : String) (ofHeld : Held → Except Problem α)
    (ofText : String → Except Problem α) : Except (List Complaint) (Option α) :=
  let complain (place : String) (found : Json) (problem : Problem) : List Complaint :=
    [⟨[.string place, .string name], problem, found⟩]
  if fields.inPath.contains name then
    match fields.held.lookup name with
    | some held => (some <$> ofHeld held).mapError (complain "path" held.json)
    | none => .error (complain "path" .null .absent)
  else match ((Text.queryPairs fields.query).reverse.find? fun pair => pair.1 == name).map (·.2) with
    | some text => (some <$> ofText text).mapError (complain "query" (.string text))
    | none => .ok none

def integer? (fields : Fields) (name : String) : Except (List Complaint) (Option Int) :=
  fields.read name Held.integer integerOfText

def text? (fields : Fields) (name : String) : Except (List Complaint) (Option String) :=
  fields.read name Held.string .ok

private def required {α : Type} (name : String) (read : Except (List Complaint) (Option α)) : Except (List Complaint) α := do
  match ← read with
  | some a => return a
  | none => throw [⟨[.string "query", .string name], .absent, .null⟩]

def integer (fields : Fields) (name : String) : Except (List Complaint) Int := required name (fields.integer? name)

def text (fields : Fields) (name : String) : Except (List Complaint) String := required name (fields.text? name)

end Fields

structure OrderForm where
  order : Int
  account : Int
  service : Int
  amount : Int
deriving DecidableEq, Repr

def OrderForm.read (body : Json) : Except (List Complaint) OrderForm :=
  fill (fill (fill (fill (.ok OrderForm.mk) (bodyField body "order_id")) (bodyField body "account_id"))
    (bodyField body "service_id")) (bodyField body "amount" positiveAmount)

structure CreditForm where
  account : Int
  amount : Int
deriving DecidableEq, Repr

def CreditForm.read (body : Json) : Except (List Complaint) CreditForm :=
  fill (fill (.ok CreditForm.mk) (bodyField body "account_id")) (bodyField body "amount" [.atLeast 0, .atMost maxInteger])

structure TransferForm where
  sender : Int
  receiver : Int
  amount : Int
deriving DecidableEq, Repr

def TransferForm.read (body : Json) : Except (List Complaint) TransferForm :=
  fill (fill (fill (.ok TransferForm.mk) (bodyField body "sender_id")) (bodyField body "receiver_id"))
    (bodyField body "amount" positiveAmount)

structure MonthForm where
  month : Int
  year : Int
deriving DecidableEq, Repr

def MonthForm.read (body : Json) : Except (List Complaint) MonthForm :=
  fill (fill (.ok MonthForm.mk) (bodyField body "month" [.atLeast 1, .atMost 12])) (bodyField body "year" [.atLeast 2022])

structure ListingForm where
  account : Int
  limit : Option Int
  offset : Option Int
  sort : Option String
  direction : Option String
deriving DecidableEq, Repr

private def pathFirst (complaints : List Complaint) : List Complaint :=
  let isInPath (c : Complaint) : Bool := match c.place with
    | .string "path" :: _ => true
    | _ => false
  complaints.filter isInPath ++ complaints.filter (!isInPath ·)

def ListingForm.read (fields : Fields) : Except (List Complaint) ListingForm :=
  (fill (fill (fill (fill (fill (.ok ListingForm.mk) (fields.integer "account_id")) (fields.integer? "limit"))
    (fields.integer? "offset")) (fields.text? "sort")) (fields.text? "direction")).mapError pathFirst

end Passbook.Http
