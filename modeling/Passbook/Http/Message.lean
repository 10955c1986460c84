import Passbook.Form.Problem
/-! Requests and responses. -/
namespace Passbook.Http

/-- A request; path and query of its target are percent-encoded. -/
structure Request where
  method : String
  target : String
  body : Option String := none

inductive Body where
  | json (value : Json)
  | text (value : String)

structure Response where
  status : Nat
  contentType : Option String
  body : Body
  disposition : Option String := none
  location : Option String := none
  allow : Option String := none

namespace Response

def json (status : Nat) (value : Json) : Response := { status, contentType := some "application/json", body := .json value }

def ok (members : List (String × Json)) : Response := json 200 (.object members)

def detail (status : Nat) (text : String) : Response := json status (.object [("detail", .string text)])

def complaints (cs : List Form.Complaint) : Response :=
  json 422 (.object [("detail", .ofList Form.Complaint.toJson cs)])

end Response
end Passbook.Http
